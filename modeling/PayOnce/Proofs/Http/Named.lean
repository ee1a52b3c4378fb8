import PayOnce.Proofs.Http.Discretion
import PayOnce.Proofs.Http.HeaderKey
import PayOnce.Proofs.Text.Utf8
import PayOnce.Proofs.Uuid
/-!
How payments are named. An identifier is read from each of its spellings and from nothing else, and
requests to see a payment are answered alike, in whichever spelling they name it.
-/

namespace PayOnce

open Text

/-! ## Identifiers of payments -/

/-- The spellings of an identifier are read, and nothing else. -/
theorem readPaymentId_eq_ok_iff (text : String) (id : Uuid) :
    readPaymentId text = .ok id ↔ Uuid.Spells text.toList id := by
  rw [← Uuid.ofText?_eq_some_iff, readPaymentId]
  cases Uuid.ofText? text <;> simp

/-- What is not read is refused, with the text that was given. -/
theorem readPaymentId_eq_error_iff (text : String) (e : DomainError) :
    readPaymentId text = .error e ↔
      (∀ id, ¬ Uuid.Spells text.toList id) ∧ e = .validation (.paymentId text) := by
  simp only [← Uuid.ofText?_eq_some_iff, readPaymentId]
  cases Uuid.ofText? text with
  | none => simp [eq_comm]
  | some id => simp

namespace Http

open Program

/-! ## Paths -/

/-- The path of a request names a payment, in one of the spellings of its identifier. -/
def Request.Names (r : Request) (id : Uuid) : Prop :=
  ∃ segment text, Route.ofPath? r.target.path = some (.payment segment) ∧
    Route.segmentText? segment = some text ∧ Uuid.Spells text.toList id

/-- Without percent signs there is nothing to undo. -/
theorem percentDecode_of_notMem {cs : List Char} (h : '%' ∉ cs) :
    Route.percentDecode cs = Utf8.encode (String.ofList cs) := by
  rw [Utf8.encode_eq, String.toList_ofList]
  induction cs with
  | nil => rfl
  | cons c cs ih =>
    have hc : c ≠ '%' := fun heq => h (heq ▸ List.mem_cons_self)
    rw [List.flatMap_cons, ← ih fun hmem => h (List.mem_cons_of_mem _ hmem)]
    simp [Route.percentDecode, hc, Utf8.encode_eq]

theorem segmentText?_of_notMem {cs : List Char} (h : '%' ∉ cs) :
    Route.segmentText? (String.ofList cs) = some (String.ofList cs) := by
  have hdecode := (Utf8.decode_eq_ok_iff (Utf8.encode (String.ofList cs)) _).2 rfl
  rw [Route.segmentText?, String.toList_ofList, percentDecode_of_notMem h, hdecode]
  rfl

theorem ofPath?_payment {cs : List Char} (hne : cs ≠ []) (hslash : '/' ∉ cs) :
    Route.ofPath? (String.ofList (Route.paymentStart ++ cs))
      = some (.payment (String.ofList cs)) := by
  have hstart : Route.paymentStart.isPrefixOf (Route.paymentStart ++ cs) = true :=
    List.isPrefixOf_iff_prefix.2 (List.prefix_append _ _)
  have hother {path : String} (h : Route.paymentStart.isPrefixOf path.toList = false) :
      String.ofList (Route.paymentStart ++ cs) ≠ path := by
    rintro rfl
    rw [String.toList_ofList, hstart] at h
    cases h
  have hsegment : (!cs.isEmpty && cs.all (· != '/')) = true := by
    rw [Bool.and_eq_true, List.all_eq_true]
    exact ⟨by simpa using hne, fun c hc => bne_iff_ne.2 fun heq => hslash (heq ▸ hc)⟩
  unfold Route.ofPath?
  rw [if_neg (hother (by decide)), if_neg (hother (by decide)), if_neg (hother (by decide)),
    if_neg (hother (by decide))]
  simp only [String.toList_ofList, List.drop_left, hstart, Bool.true_and, hsegment, if_true]

/-- Every spelling names the payment as it stands, without any escape. -/
theorem Request.names_of_spells {r : Request} {cs : List Char} {id : Uuid} (h : Uuid.Spells cs id)
    (hpath : r.target.path = String.ofList (Route.paymentStart ++ cs)) : r.Names id := by
  have hpercent : '%' ∉ cs := h.notMem (by decide) (by decide) (by decide)
  have hslash : '/' ∉ cs := h.notMem (by decide) (by decide) (by decide)
  have hne : cs ≠ [] := by
    rintro rfl
    cases h.ofChars?
  exact ⟨_, _, hpath ▸ ofPath?_payment hne hslash, segmentText?_of_notMem hpercent,
    by rwa [String.toList_ofList]⟩

/-! ## Requests -/

section Served

variable {σ τ : Type} {r r' : Request} {id : Uuid}

theorem Request.Names.aboutPayments (h : r.Names id) (hmethod : r.method = "GET") :
    r.AboutPayments :=
  have ⟨segment, _, hroute, _⟩ := h
  .inr ⟨hmethod, segment, hroute⟩

/-- The handler does not see how the identifier was spelled. -/
theorem handle_of_names (h : r.Names id) (h' : r'.Names id) (hmethod : r.method = "GET")
    (hmethod' : r'.method = "GET") (deadlines : Deadlines) (limits : Limits) :
    handle deadlines limits r = handle deadlines limits r' := by
  obtain ⟨segment, text, hroute, htext, hspells⟩ := h
  obtain ⟨segment', text', hroute', htext', hspells'⟩ := h'
  have hid := (readPaymentId_eq_ok_iff text id).2 hspells
  have hid' := (readPaymentId_eq_ok_iff text' id).2 hspells'
  simp only [handle, hroute, hroute', Route.handle, Route.methods, hmethod, hmethod', Route.respond,
    showPayment, htext, htext', hid, hid']

theorem requestLabel_of_names (h : r.Names id) (h' : r'.Names id) :
    requestLabel r = requestLabel r' := by
  obtain ⟨segment, -, hroute, -⟩ := h
  obtain ⟨segment', -, hroute', -⟩ := h'
  simp only [requestLabel, hroute, hroute', Route.label]

/-- Requests to see a payment that name it in different spellings are served alike. -/
theorem serve_of_names (h : r.Names id) (h' : r'.Names id) (hmethod : r.method = "GET")
    (hmethod' : r'.method = "GET") (hheaders : r.headers = r'.headers) (env : Environment σ τ)
    (deadlines : Deadlines) (limits : Limits) (fresh : Uuid) (s : Progress σ τ) :
    (serve env deadlines limits fresh r s).response =
        (serve env deadlines limits fresh r' s).response ∧
      (serve env deadlines limits fresh r s).row = (serve env deadlines limits fresh r' s).row ∧
      (serve env deadlines limits fresh r s).progress.Matches
        (serve env deadlines limits fresh r' s).progress := by
  have habout := h.aboutPayments hmethod
  have habout' := h'.aboutPayments hmethod'
  have halike : Alike Response.SameDiscreet (handle deadlines limits r)
      (handle deadlines limits r') := by
    rw [handle_of_names h h' hmethod hmethod']
    exact alike_handle deadlines limits habout'
  have hrequestId : requestIdOf r fresh = requestIdOf r' fresh := by
    rw [requestIdOf, requestIdOf, hheaders]
  obtain ⟨⟨hsame, -⟩, hprogress⟩ := respond_alike (.refl env) halike
    (requestSpan r (requestIdOf r' fresh)) (requestSpan r' (requestIdOf r' fresh)) (.refl s)
  have hoptions : r'.method ≠ "OPTIONS" := by simp [hmethod']
  simp only [serve, hoptions, if_false, fitMethod_eq habout, fitMethod_eq habout',
    hrequestId, hsame, requestLabel_of_names h h', hmethod.trans hmethod'.symm]
  exact ⟨trivial, trivial, matches_note hprogress _ _⟩

/-- The text of an identifier is faithful. An identifier is read back from its text and from each of
    its spellings, and a text that is no spelling is refused by an error that quotes it; different
    identifiers have different texts. Requests to see a payment, which may name it in any spelling
    as it stands or with escapes, are answered alike in all of them. -/
theorem spellings_are_equal (env : Environment σ τ) (deadlines : Deadlines) (limits : Limits)
    (fresh : Uuid) (s : Progress σ τ) :
    (∀ id : Uuid, readPaymentId id.text = .ok id) ∧
      (∀ (text : String) (id : Uuid), Uuid.Spells text.toList id → readPaymentId text = .ok id) ∧
      (∀ text : String, (∀ id, ¬ Uuid.Spells text.toList id) →
        ∃ e, readPaymentId text = .error (.validation e) ∧
          e.message = "invalid payment id: " ++ Quoted.text text) ∧
      (∀ id id' : Uuid, id.text = id'.text → id = id') ∧
      (∀ (r : Request) (cs : List Char) (id : Uuid), Uuid.Spells cs id →
        r.target.path = String.ofList (Route.paymentStart ++ cs) → r.Names id) ∧
      ∀ (r r' : Request) (id : Uuid), r.Names id → r'.Names id → r.method = "GET" →
        r'.method = "GET" → r.headers = r'.headers →
        (serve env deadlines limits fresh r s).response =
            (serve env deadlines limits fresh r' s).response ∧
          (serve env deadlines limits fresh r s).row = (serve env deadlines limits fresh r' s).row ∧
          (serve env deadlines limits fresh r s).progress.Matches
            (serve env deadlines limits fresh r' s).progress := by
  have hread (text : String) (id : Uuid) := (readPaymentId_eq_ok_iff text id).2
  refine ⟨?_, hread, ?_, fun _ _ => Uuid.text_injective, fun _ _ _ => Request.names_of_spells, ?_⟩
  · intro id
    exact hread _ _ ((Uuid.ofText?_eq_some_iff _ _).1 id.ofText?_text)
  · intro text hno
    exact ⟨.paymentId text, (readPaymentId_eq_error_iff text _).2 ⟨hno, rfl⟩, rfl⟩
  · intro r r' id h h' hmethod hmethod' hheaders
    exact serve_of_names h h' hmethod hmethod' hheaders env deadlines limits fresh s

end Served

/-- A payment that has been kept. -/
def keptId : Uuid :=
  ⟨0xF47AC10B58CC4372A5670E02B2C3D479⟩

/-- A store with this payment in it. -/
def withKept : MemoryStore where
  payments := [⟨keptId, "order-1", "customer-1", ⟨100, "USD"⟩, .pending, "", "", "key-1", ⟨0, 0⟩,
    ⟨0, 0⟩, 1⟩]

/-- A request to see the payment that a part of its path names. -/
def viewing (segment : String) : Request where
  method := "GET"
  target := ⟨none, "", "/v1/payments/" ++ segment, none⟩
  headers := []
  body := ⟨[], .complete⟩

/-- The payment is seen under its digits in capitals, and under its name with braces that are
    escaped. -/
theorem spellings_are_equal_escapedBraces :
    readPaymentId "F47AC10B58CC4372A5670E02B2C3D479" = .ok keptId ∧
      (∃ e, readPaymentId "f47ac10b-58cc-4372-a5670e02b2c3d479" = .error (.validation e)) ∧
      (serve inMemory .standard .standard ⟨1⟩ (viewing "F47AC10B58CC4372A5670E02B2C3D479")
          ⟨withKept, {}, 0, 0, []⟩).response =
        (serve inMemory .standard .standard ⟨1⟩
          (viewing "%7Bf47ac10b-58cc-4372-a567-0e02b2c3d479%7d")
          ⟨withKept, {}, 0, 0, []⟩).response ∧
      (serve inMemory .standard .standard ⟨1⟩ (viewing "F47AC10B58CC4372A5670E02B2C3D479")
        ⟨withKept, {}, 0, 0, []⟩).response.status = 200 := by
  obtain ⟨-, hread, hrefused, -, hnames, hserved⟩ :=
    spellings_are_equal inMemory .standard .standard ⟨1⟩ ⟨withKept, {}, 0, 0, []⟩
  have hdigits : Uuid.Spells "F47AC10B58CC4372A5670E02B2C3D479".toList keptId :=
    .simple (by decide +kernel)
  have hplain : (viewing "F47AC10B58CC4372A5670E02B2C3D479").Names keptId :=
    hnames _ _ _ hdigits (by decide +kernel)
  have hbraces : (viewing "%7Bf47ac10b-58cc-4372-a567-0e02b2c3d479%7d").Names keptId :=
    ⟨_, "\x7bf47ac10b-58cc-4372-a567-0e02b2c3d479\x7d", rfl, by decide +kernel,
      Uuid.spells_of_ofChars? (by decide +kernel)⟩
  have hno (id : Uuid) : ¬ Uuid.Spells "f47ac10b-58cc-4372-a5670e02b2c3d479".toList id := by
    intro hspells
    cases hspells.ofChars?
  refine ⟨hread _ _ hdigits, ?_, ?_, by decide +kernel⟩
  · obtain ⟨e, he, -⟩ := hrefused _ hno
    exact ⟨e, he⟩
  · exact (hserved _ _ keptId hplain hbraces rfl rfl rfl).1

/-- The mark of an identifier that is spelled as a name may be in capitals: it is not only digits
    that are read in either case. -/
theorem capital_mark_read :
    ¬ ∀ text : String, (∀ (id : Uuid) (ds : List Char), ds.map Char.toLower = id.simple →
        text.toList ∉ [ds, Uuid.hyphenate ds, '{' :: Uuid.hyphenate ds ++ ['}'],
          Uuid.urn ++ Uuid.hyphenate ds]) →
      readPaymentId text = .error (.validation (.paymentId text)) := by
  intro hall
  have hrefused := hall "URN:UUID:f47ac10b-58cc-4372-a567-0e02b2c3d479" ?_
  · revert hrefused
    decide +kernel
  · intro id ds hds
    have hgroups := Uuid.length_hyphenate hds
    have hdigits := Uuid.length_of_map_toLower hds
    have hother {cs : List Char} (h : cs.length ≠ 45) :
        "URN:UUID:f47ac10b-58cc-4372-a567-0e02b2c3d479".toList ≠ cs := by
      rintro rfl
      exact h rfl
    have hsmall : "URN:UUID:f47ac10b-58cc-4372-a567-0e02b2c3d479".toList ≠
        Uuid.urn ++ Uuid.hyphenate ds := by
      intro heq
      have hfirst : some 'U' = some 'u' := congrArg List.head? heq
      exact absurd hfirst (by decide)
    simp only [List.mem_cons, List.not_mem_nil, or_false, not_or]
    exact ⟨hother (by omega), hother (by omega), hother (by simp [hgroups]), hsmall⟩

end Http

end PayOnce
