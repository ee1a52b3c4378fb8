import PayOnce.Http.Intake
import PayOnce.Proofs.Json.Soundness
import PayOnce.Proofs.Payment.Spelling
/-!
The texts that requests for an initiation are read from. An object is read as the request that its
members spell, in whatever order and with whatever members beside, where members that are left out
are empty or zero. Any other object is refused, and so is a text that is no JSON.
-/

namespace PayOnce

open Json Text Value

/-! ## Fields -/

/-- A field that holds a text denotes what a string spells. -/
def knownText (name : String) : Known FieldValue where
  toMember := textField name
  denotes v x := ∃ s, Says v s ∧ x = .text s
  understands := understands_fieldReader understands_readText

/-- A field that holds a whole number denotes the one whose digits stand there. -/
def knownInt (name : String) : Known FieldValue where
  toMember := intField name
  denotes v x := ∃ n, Counts v n ∧ x = .int n
  understands := understands_fieldReader understands_readInt64

theorem takesValues_fieldReader {α : Type} {value : α → FieldValue} {read : Reader α}
    (h : TakesValues read) : TakesValues (fieldReader value read) := by
  intro t x rest hread
  unfold fieldReader at hread
  split at hread
  · next hvalue =>
    cases hread
    exact h hvalue
  · cases hread

namespace Json

section Gives

variable {V α : Type} {ms : List MemberText} {name : String} {denotes : List Char → α → Prop}
  {default a : α}

/-- There is one member of a name, with a value that denotes this, or none, and this is what stands
    in for it. -/
inductive Gives (ms : List MemberText) (name : String) (denotes : List Char → α → Prop)
    (default : α) : α → Prop
  | member {m : MemberText} {a : α} (honly : membersNamed ms name = [m])
      (h : denotes m.item.value a) : Gives ms name denotes default a
  | nothing (hnone : membersNamed ms name = []) : Gives ms name denotes default default

theorem Gives.length_le_one (h : Gives ms name denotes default a) :
    (membersNamed ms name).length ≤ 1 := by
  cases h with
  | member honly => rw [honly, List.length_singleton]
  | nothing hnone =>
    rw [hnone]
    exact Nat.zero_le 1

theorem Gives.of_mem (h : Gives ms name denotes default a) {m : MemberText}
    (hm : m ∈ membersNamed ms name) : membersNamed ms name = [m] ∧ denotes m.item.value a := by
  cases h with
  | member honly h =>
    rw [honly, List.mem_singleton] at hm
    subst hm
    exact ⟨honly, h⟩
  | nothing hnone =>
    rw [hnone] at hm
    cases hm

/-- A name gives something unless it is there twice or its value denotes nothing. -/
theorem exists_gives (hcount : ¬ 1 < (membersNamed ms name).length)
    (hvalue : ∀ m ∈ membersNamed ms name, ∃ a, denotes m.item.value a) (default : α) :
    ∃ a, Gives ms name denotes default a := by
  cases hnamed : membersNamed ms name with
  | nil => exact ⟨default, .nothing hnamed⟩
  | cons m ms' =>
    have hnil : ms' = [] := by
      rw [hnamed, List.length_cons, Nat.not_lt, Nat.succ_le_succ_iff] at hcount
      exact List.length_eq_zero_iff.1 (Nat.le_zero.1 hcount)
    subst hnil
    obtain ⟨a, ha⟩ := hvalue m (by rw [hnamed]; exact List.mem_singleton_self m)
    exact ⟨a, .member hnamed ha⟩

/-- What is found under a name is what its member gives, or nothing if there is none. -/
theorem Gathers.get?_of_gives {fields : List (Known V)} {found : Found V}
    (h : Gathers fields ms found) (hms : ∀ m ∈ ms, Spelt m.item.value) {field : Known V}
    (hfield : Known.find? fields name = some field) (hgives : Gives ms name denotes default a)
    (value : α → V) (hdenotes : ∀ v a, denotes v a → field.denotes v (value a)) :
    found.get? name = some (value a) ∨ found.get? name = none ∧ a = default := by
  cases hgives with
  | @member m _ honly ha =>
    have hm : m ∈ ms :=
      List.mem_of_mem_filter (by rw [← membersNamed, honly]; exact List.mem_singleton_self m)
    exact .inl (h.get?_eq hfield honly (hms m hm) (hdenotes _ _ ha))
  | nothing hnone =>
    cases hfound : found.get? name with
    | none => exact .inr ⟨rfl, rfl⟩
    | some x =>
      obtain ⟨m, honly, -⟩ := h.present hfield hfound
      rw [hnone] at honly
      cases honly

end Gives

end Json

namespace Http.InitiationRequest

/-- The names of the members that hold texts. -/
def textNames : List String :=
  ["order_id", "customer_id", "currency", "idempotency_key"]

/-- The fields of a request, with what they denote. -/
def known : List (Known FieldValue) :=
  [knownText "order_id", knownText "customer_id", knownInt "amount_cents", knownText "currency",
    knownText "idempotency_key"]

theorem map_known : known.map Known.toMember = fields :=
  rfl

/-- Members that spell a request: each of them has a name, and each field of the request is given by
    one member, or by none if it is empty or zero. -/
structure SpeltBy (q : InitiationRequest) (ms : List MemberText) : Prop where
  names : ∀ m ∈ ms, ∃ name, spelled? m.name = some name
  orderId : Gives ms "order_id" Says "" q.orderId
  customerId : Gives ms "customer_id" Says "" q.customerId
  amount : Gives ms "amount_cents" Counts 0 q.amount
  currency : Gives ms "currency" Says "" q.currency
  idempotencyKey : Gives ms "idempotency_key" Says "" q.idempotencyKey

section Fields

variable {q : InitiationRequest} {ms : List MemberText} {found : Found FieldValue} {name : String}

theorem find?_text (h : name ∈ textNames) : Known.find? known name = some (knownText name) := by
  simp only [textNames, List.mem_cons, List.not_mem_nil, or_false] at h
  obtain rfl | rfl | rfl | rfl := h <;> rfl

theorem find?_amount : Known.find? known "amount_cents" = some (knownInt "amount_cents") :=
  rfl

theorem find?_known {field : Known FieldValue} (h : Known.find? known name = some field) :
    name ∈ textNames ∧ field = knownText name ∨
      name = "amount_cents" ∧ field = knownInt "amount_cents" := by
  obtain ⟨hmem, rfl⟩ := Known.of_find? h
  simp only [known, List.mem_cons, List.not_mem_nil, or_false] at hmem
  obtain rfl | rfl | rfl | rfl | rfl := hmem
  · exact .inl ⟨by decide, rfl⟩
  · exact .inl ⟨by decide, rfl⟩
  · exact .inr ⟨rfl, rfl⟩
  · exact .inl ⟨by decide, rfl⟩
  · exact .inl ⟨by decide, rfl⟩

theorem SpeltBy.gives_text (h : q.SpeltBy ms) (hname : name ∈ textNames) :
    ∃ s, Gives ms name Says "" s := by
  simp only [textNames, List.mem_cons, List.not_mem_nil, or_false] at hname
  obtain rfl | rfl | rfl | rfl := hname
  · exact ⟨_, h.orderId⟩
  · exact ⟨_, h.customerId⟩
  · exact ⟨_, h.currency⟩
  · exact ⟨_, h.idempotencyKey⟩

/-! ## What was found -/

theorem gives_textOr (h : Gathers known ms found) (hname : name ∈ textNames) :
    Gives ms name Says "" (textOr found name) := by
  unfold textOr
  cases hfound : found.get? name with
  | none => exact .nothing (h.absent (find?_text hname) hfound)
  | some x =>
    obtain ⟨m, honly, s, hs, rfl⟩ := h.present (find?_text hname) hfound
    exact .member honly hs

theorem gives_intOr (h : Gathers known ms found) :
    Gives ms "amount_cents" Counts 0 (intOr found "amount_cents") := by
  unfold intOr
  cases hfound : found.get? "amount_cents" with
  | none => exact .nothing (h.absent find?_amount hfound)
  | some x =>
    obtain ⟨m, honly, n, hn, rfl⟩ := h.present find?_amount hfound
    exact .member honly hn

/-- Members that were taken spell the request that is made of them. -/
theorem speltBy_ofFields (h : Gathers known ms found) : (ofFields found).SpeltBy ms where
  names := h.spelled
  orderId := gives_textOr h (by decide)
  customerId := gives_textOr h (by decide)
  amount := gives_intOr h
  currency := gives_textOr h (by decide)
  idempotencyKey := gives_textOr h (by decide)

theorem textOr_eq (h : Gathers known ms found) (hms : ∀ m ∈ ms, Spelt m.item.value)
    (hname : name ∈ textNames) {s : String} (hs : Gives ms name Says "" s) :
    textOr found name = s := by
  obtain hfound | ⟨hfound, rfl⟩ := h.get?_of_gives hms (find?_text hname) hs .text
    fun _ s hs => ⟨s, hs, rfl⟩
  · simp only [textOr, hfound]
  · simp only [textOr, hfound]

theorem intOr_eq (h : Gathers known ms found) (hms : ∀ m ∈ ms, Spelt m.item.value) {n : Int}
    (hn : Gives ms "amount_cents" Counts 0 n) : intOr found "amount_cents" = n := by
  obtain hfound | ⟨hfound, rfl⟩ := h.get?_of_gives hms find?_amount hn .int
    fun _ n hn => ⟨n, hn, rfl⟩
  · simp only [intOr, hfound]
  · simp only [intOr, hfound]

/-- Members that spell a request are taken for it. -/
theorem SpeltBy.ofFields_eq (hq : q.SpeltBy ms) (h : Gathers known ms found)
    (hms : ∀ m ∈ ms, Spelt m.item.value) : ofFields found = q := by
  rw [ofFields, textOr_eq h hms (by decide) hq.orderId, textOr_eq h hms (by decide) hq.customerId,
    intOr_eq h hms hq.amount, textOr_eq h hms (by decide) hq.currency,
    textOr_eq h hms (by decide) hq.idempotencyKey]

/-- Members that spell a request can be taken in turn. -/
theorem SpeltBy.exists_addsAll (hq : q.SpeltBy ms) : ∃ found, AddsAll known [] ms found := by
  refine Json.exists_addsAll [] ?_
  intro m hm
  obtain ⟨name, hname⟩ := hq.names m hm
  have hmem : m ∈ membersNamed ms name := List.mem_filter.2 ⟨hm, by simpa using hname⟩
  refine ⟨name, hname, ?_⟩
  intro field hfield
  obtain ⟨htext, rfl⟩ | ⟨rfl, rfl⟩ := find?_known hfield
  · obtain ⟨s, hgives⟩ := hq.gives_text htext
    obtain ⟨honly, hs⟩ := hgives.of_mem hmem
    exact ⟨rfl, honly, _, s, hs, rfl⟩
  · obtain ⟨honly, hn⟩ := hq.amount.of_mem hmem
    exact ⟨rfl, honly, _, q.amount, hn, rfl⟩

end Fields

/-! ## Texts -/

theorem decode_eq_ok_iff_found (cs : Glyphs) (q : InitiationRequest) :
    decode cs = .ok q ↔ ∃ found, readAll (readRecord "struct InitiatePaymentRequest"
      (known.map Known.toMember)) cs = .ok found ∧ ofFields found = q := by
  rw [decode, map_known]
  cases readAll (readRecord "struct InitiatePaymentRequest" fields) cs <;> simp [Except.map]

/-- An object is read as a request exactly if its members spell it and only blanks follow. -/
theorem decode_objectText (lead inner : Gap) {ms : List MemberText}
    (hms : ∀ m ∈ ms, Spelt m.item.value) (tail : List Char) (q : InitiationRequest) :
    decode ((lead.chars ++ objectText inner ms ++ tail).map some) = .ok q
      ↔ q.SpeltBy ms ∧ ∀ c ∈ tail, isGap (some c) = true := by
  have hglyphs : (lead.chars ++ objectText inner ms ++ tail).map some
      = lead.glyphs ++ ((objectText inner ms).map some ++ tail.map some) := by
    simp [Gap.glyphs]
  simp only [decode_eq_ok_iff_found, hglyphs, readAll_readRecord_eq_ok_iff _ _ _ hms]
  constructor
  · rintro ⟨found, ⟨hall, hblank⟩, rfl⟩
    exact ⟨speltBy_ofFields (hall.gathers gathers_nil), hblank⟩
  · rintro ⟨hq, hblank⟩
    obtain ⟨found, hall⟩ := hq.exists_addsAll
    exact ⟨found, ⟨hall, hblank⟩, hq.ofFields_eq (hall.gathers gathers_nil) hms⟩

/-- Only JSON is read as a request. -/
theorem wellFormed_of_decode {t : List Char} {q : InitiationRequest}
    (h : decode (t.map some) = .ok q) : WellFormed t := by
  have hfields : ∀ field ∈ known.map Known.toMember, TakesValues field.read := by
    intro field hfield
    obtain ⟨field, hknown, rfl⟩ := List.mem_map.1 hfield
    have htext (name : String) : TakesValues (knownText name).read :=
      takesValues_fieldReader takesValues_readText
    simp only [known, List.mem_cons, List.not_mem_nil, or_false] at hknown
    obtain rfl | rfl | rfl | rfl | rfl := hknown
    · exact htext _
    · exact htext _
    · exact takesValues_fieldReader takesValues_readInt64
    · exact htext _
    · exact htext _
  obtain ⟨found, hread, -⟩ := (decode_eq_ok_iff_found _ q).1 h
  exact wellFormed_of_readAll (takesValues_readRecord _ hfields) hread

/-- What may be wrong with an object that is no request, and with what follows it. -/
inductive Flawed (ms : List MemberText) (tail : List Char) : Prop
  /-- The name of a member spells nothing. -/
  | nameless {m : MemberText} (hm : m ∈ ms) (hname : spelled? m.name = none)
  /-- A member of a request is there more than once. -/
  | repeated {name : String} (hname : name ∈ textNames ∨ name = "amount_cents")
      (hcount : 1 < (membersNamed ms name).length)
  /-- The value of a member that holds a text is no string that spells one. -/
  | text {name : String} (hname : name ∈ textNames) {m : MemberText} (hm : m ∈ membersNamed ms name)
      (hvalue : ∀ s, ¬ Says m.item.value s)
  /-- The amount is no whole number of 64 bits in digits. -/
  | amount {m : MemberText} (hm : m ∈ membersNamed ms "amount_cents")
      (hvalue : ∀ n, ¬ Counts m.item.value n)
  /-- Something other than blanks follows. -/
  | trailing {c : Char} (hc : c ∈ tail) (hgap : isGap (some c) = false)

/-- An object spells a request and is followed by blanks, or one of the flaws is there. -/
theorem flawed_iff (ms : List MemberText) (tail : List Char) :
    Flawed ms tail ↔
      ∀ q : InitiationRequest, ¬ (q.SpeltBy ms ∧ ∀ c ∈ tail, isGap (some c) = true) := by
  constructor
  · rintro hflaw q ⟨hq, hblank⟩
    cases hflaw with
    | nameless hm hname =>
      obtain ⟨name, hsome⟩ := hq.names _ hm
      rw [hname] at hsome
      cases hsome
    | repeated hname hcount =>
      obtain hname | rfl := hname
      · obtain ⟨s, hs⟩ := hq.gives_text hname
        exact Nat.not_lt.2 hs.length_le_one hcount
      · exact Nat.not_lt.2 hq.amount.length_le_one hcount
    | text hname hm hvalue =>
      obtain ⟨s, hs⟩ := hq.gives_text hname
      exact hvalue s (hs.of_mem hm).2
    | amount hm hvalue => exact hvalue _ (hq.amount.of_mem hm).2
    | trailing hc hgap =>
      rw [hblank _ hc] at hgap
      cases hgap
  · intro hnone
    by_contra hflaw
    -- Without a flaw each field is given something, and so there is a request after all.
    have htext (name : String) (hname : name ∈ textNames) : ∃ s, Gives ms name Says "" s := by
      refine exists_gives (fun hcount => hflaw (.repeated (.inl hname) hcount)) ?_ ""
      intro m hm
      by_contra hno
      exact hflaw (.text hname hm fun s hs => hno ⟨s, hs⟩)
    have hamount : ∃ n, Gives ms "amount_cents" Counts 0 n := by
      refine exists_gives (fun hcount => hflaw (.repeated (.inr rfl) hcount)) ?_ 0
      intro m hm
      by_contra hno
      exact hflaw (.amount hm fun n hn => hno ⟨n, hn⟩)
    obtain ⟨orderId, horder⟩ := htext "order_id" (by decide)
    obtain ⟨customerId, hcustomer⟩ := htext "customer_id" (by decide)
    obtain ⟨amount, hamount⟩ := hamount
    obtain ⟨currency, hcurrency⟩ := htext "currency" (by decide)
    obtain ⟨key, hkey⟩ := htext "idempotency_key" (by decide)
    refine hnone ⟨orderId, customerId, amount, currency, key⟩
      ⟨⟨?_, horder, hcustomer, hamount, hcurrency, hkey⟩, ?_⟩
    · intro m hm
      cases hname : spelled? m.name with
      | none => exact absurd (.nameless hm hname) hflaw
      | some name => exact ⟨name, rfl⟩
    · intro c hc
      cases hgap : isGap (some c) with
      | true => rfl
      | false => exact absurd (.trailing hc hgap) hflaw

end Http.InitiationRequest

end PayOnce
