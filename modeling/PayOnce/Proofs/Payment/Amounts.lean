import PayOnce.Proofs.Payment.Event
import PayOnce.Proofs.Payment.Money
import PayOnce.Proofs.Payment.Spelling
/-!
Amounts of money and their JSON form. What is made of a number and a code is positive and in a
currency of three capital letters, and it stays the same when it is written and read back, or made
again of its own parts. What is read from JSON is not checked: it may be any number of 64 bits with
any text, and it is sound exactly if it is what its own parts make.
-/

namespace PayOnce

open Json Text

/-! ## Capital letters -/

theorem isAlpha_of_isUpper {c : Char} (h : c.isUpper = true) : c.isAlpha = true := by
  change (c.isUpper || c.isLower) = true
  rw [h, Bool.true_or]

/-- A letter that is its own capital is a capital. -/
theorem isUpper_of_toUpper {c : Char} (halpha : c.isAlpha = true) (h : c.toUpper = c) :
    c.isUpper = true := by
  have hcapital := c.isUpper_toUpper_eq_isAlpha
  rwa [h, halpha] at hcapital

theorem upperAscii_eq_self_iff (s : String) :
    upperAscii s = s ↔ ∀ c ∈ s.toList, c.toUpper = c := by
  have hmap : s.toList.map Char.toUpper = s.toList.map id ↔ ∀ c ∈ s.toList, c.toUpper = id c :=
    List.map_inj_left
  rw [upperAscii, ← String.toList_inj, String.toList_ofList]
  simpa using hmap

namespace Money

/-! ## Sound amounts -/

/-- A positive amount in a currency of three capital letters of ASCII. -/
structure Sound (m : Money) : Prop where
  positive : 0 < m.amount
  length : m.currency.toList.length = 3
  capitals : ∀ c ∈ m.currency.toList, c.isUpper = true

theorem Sound.trim_currency {m : Money} (h : m.Sound) : trim m.currency = m.currency :=
  trim_eq_self fun c hc => isBlankChar_of_isAlpha (isAlpha_of_isUpper (h.capitals c hc))

theorem Sound.isCurrencyCode {m : Money} (h : m.Sound) : isCurrencyCode m.currency = true := by
  have hletters : m.currency.toList.all Char.isAlpha = true :=
    List.all_eq_true.2 fun c hc => isAlpha_of_isUpper (h.capitals c hc)
  rw [Money.isCurrencyCode, h.length, hletters]
  rfl

/-- An amount is what its own parts make exactly if it is sound. -/
theorem valid_iff_sound (m : Money) : m.Valid ↔ m.Sound := by
  rw [Valid, make_eq_ok_iff]
  constructor
  · rintro ⟨⟨hpositive, hcode⟩, hm⟩
    have hnormal := congrArg Money.currency hm
    simp only at hnormal
    have hcode' : Money.isCurrencyCode m.currency = true := by
      rw [hnormal, normalCurrency, isCurrencyCode_upperAscii, hcode]
    have hself : upperAscii m.currency = m.currency := by
      rw [hnormal, normalCurrency, upperAscii_upperAscii]
    obtain ⟨hlength, hletters⟩ := Bool.and_eq_true_iff.1 hcode'
    refine ⟨hpositive, beq_iff_eq.1 hlength, fun c hc => ?_⟩
    exact isUpper_of_toUpper (List.all_eq_true.1 hletters c hc)
      ((upperAscii_eq_self_iff _).1 hself c hc)
  · intro h
    have hupper : upperAscii m.currency = m.currency :=
      (upperAscii_eq_self_iff _).2 fun c hc =>
        Char.toUpper_eq_of_not_isLower (Char.not_isLower_of_isUpper (h.capitals c hc))
    rw [normalCurrency, h.trim_currency, hupper]
    exact ⟨⟨h.positive, h.isCurrencyCode⟩, rfl⟩

/-! ## The JSON form -/

/-- An amount that is written as JSON is read back, be it sound or not. -/
theorem decode_render {m : Money} (h : inInt64 m.amount = true) :
    decode (glyphsOf m.toJson.render) = .ok m := by
  have hamount : ReadsBack [intField "amount", textField "currency"]
      ("amount", .int m.amount) (.int m.amount) :=
    ⟨intField "amount", rfl, fun _ cs hc => (SameField.int "amount" m.amount).read h hc cs⟩
  have hcurrency : ReadsBack [intField "amount", textField "currency"]
      ("currency", .text m.currency) (.text m.currency) :=
    ⟨textField "currency", rfl,
      fun _ cs hc => (SameField.text "currency" m.currency).read trivial hc cs⟩
  have hmembers : List.Forall₂
      (fun v x => v.1 = x.1 ∧ ReadsBack [intField "amount", textField "currency"] v x.2)
      [("amount", .int m.amount), ("currency", .text m.currency)]
      [("amount", .int m.amount), ("currency", .text m.currency)] :=
    .cons ⟨rfl, hamount⟩ (.cons ⟨rfl, hcurrency⟩ .nil)
  have hread := readAll_object "an amount of money" hmembers (by simp)
  unfold decode decodeRecord toJson
  rw [hread]
  rfl

theorem yields_readInt64 : Yields readInt64 fun n => inInt64 n = true := by
  intro cs n rest hread
  unfold readInt64 at hread
  split at hread
  · split at hread
    · next hn =>
      cases hread
      exact hn
    · cases hread
  · cases hread

theorem yields_fieldReader {α : Type} {value : α → FieldValue} {read : Reader α}
    {P : α → Prop} {Q : FieldValue → Prop} (h : Yields read P) (hvalue : ∀ a, P a → Q (value a)) :
    Yields (fieldReader value read) Q := by
  intro cs x rest hread
  rw [fieldReader_eq_bind] at hread
  obtain ⟨⟨a, _⟩, ha, hx⟩ := bind_eq_ok_iff.1 hread
  cases hx
  exact hvalue a (h ha)

/-- Whatever is read as an amount has 64 bits. -/
theorem inInt64_of_decode {cs : Glyphs} {m : Money} (h : decode cs = .ok m) :
    inInt64 m.amount = true := by
  have hamount : Yields (intField "amount").read FieldValue.Told :=
    yields_fieldReader yields_readInt64 fun _ hn => hn
  have hcurrency : Yields (textField "currency").read FieldValue.Told :=
    yields_fieldReader (P := fun _ => True) (fun _ _ _ _ => trivial) fun _ _ => trivial
  obtain ⟨found, hread, hmade⟩ := (decodeRecord_eq_ok_iff ..).1 h
  have hrecord := readRecord_yields
    (List.forall_mem_cons.2 ⟨hamount, List.forall_mem_singleton.2 hcurrency⟩) "an amount of money"
  have hall : ∀ x ∈ found, x.2.Told := hrecord.of_readAll hread
  split at hmade
  · next hfound _ =>
    cases hmade
    obtain ⟨before, after, rfl, -⟩ := List.lookup_eq_some_iff.1 hfound
    exact hall ("amount", .int _) (by simp)
  · cases hmade

/-- Money that is made is sound. Of a number of 64 bits and a code there is either a refusal of the
    value or an amount that is sound, is read back from its JSON form, and is made again of its own
    parts. Reading JSON checks less: an amount that is read has 64 bits and is read back from what
    it is written as, but it is made again of its own parts only if it is sound. -/
theorem made_sound {amount : Int} (hamount : inInt64 amount = true) (code : String) (cs : Glyphs) :
    ((∃ cause, make amount code = .error (.validation cause)) ∨
        ∃ m, make amount code = .ok m ∧ m.Sound ∧
          decode (glyphsOf m.toJson.render) = .ok m ∧ make m.amount m.currency = .ok m) ∧
      ∀ m : Money, decode cs = .ok m →
        inInt64 m.amount = true ∧ decode (glyphsOf m.toJson.render) = .ok m ∧
          (make m.amount m.currency = .ok m ↔ m.Sound) := by
  constructor
  · cases hmade : make amount code with
    | error e =>
      obtain ⟨cause, rfl⟩ := exists_of_make_error hmade
      exact .inl ⟨cause, rfl⟩
    | ok m =>
      have hvalid : m.Valid := valid_of_make hmade
      obtain ⟨-, hm⟩ := make_eq_ok_iff.1 hmade
      have hsame : m.amount = amount := congrArg Money.amount hm
      exact .inr ⟨m, rfl, (valid_iff_sound m).1 hvalid, decode_render (hsame ▸ hamount), hvalid⟩
  · intro m hread
    have hstored := inInt64_of_decode hread
    exact ⟨hstored, decode_render hstored, valid_iff_sound m⟩

/-- The largest amount, of a code in small letters with blanks around it, and an amount that is
    written as a list. -/
theorem made_sound_largest :
    (∃ m, make (2 ^ 63 - 1) "\u00a0usd\n" = .ok m ∧ m.Sound ∧
      decode (glyphsOf m.toJson.render) = .ok m ∧ make m.amount m.currency = .ok m) ∧
    ∃ m, decode (glyphsOf "[7, \"EUR\"]") = .ok m ∧
      decode (glyphsOf m.toJson.render) = .ok m ∧ m.Sound := by
  have hlargest : inInt64 (2 ^ 63 - 1) = true := by decide
  obtain ⟨hmade, hread⟩ := made_sound hlargest "\u00a0usd\n" (glyphsOf "[7, \"EUR\"]")
  constructor
  · have hmake : make (2 ^ 63 - 1) "\u00a0usd\n" = .ok ⟨2 ^ 63 - 1, "USD"⟩ := by decide +kernel
    refine hmade.resolve_left ?_
    rintro ⟨cause, hrefused⟩
    rw [hmake] at hrefused
    cases hrefused
  · have hlist : decode (glyphsOf "[7, \"EUR\"]") = .ok ⟨7, "EUR"⟩ := by decide +kernel
    obtain ⟨-, hback, hsound⟩ := hread _ hlist
    exact ⟨_, hlist, hback, hsound.1 (by decide +kernel)⟩

/-- Not everything that is read as an amount is sound: there is a debt of five in small letters. -/
theorem unsound_amount_read : ¬ ∀ (cs : Glyphs) (m : Money), decode cs = .ok m → m.Sound := by
  intro hall
  have hread : decode (glyphsOf "\x7b\"amount\":-5,\"currency\":\"usd\"\x7d") =
      .ok ⟨-5, "usd"⟩ := by
    decide +kernel
  have hpositive : (0 : Int) < -5 := (hall _ _ hread).positive
  exact absurd hpositive (by decide)

end Money

end PayOnce
