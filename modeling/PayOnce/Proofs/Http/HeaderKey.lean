import PayOnce.Proofs.Http.Body
import PayOnce.Proofs.Http.Layers
import PayOnce.Proofs.Service.Keyed
/-!
Whose key a request for an initiation is served under. A key in the headers that is visible text and
not blank decides alone: the body's key is not even seen. A header that is no visible text is passed
over, as a blank one is.
-/

namespace PayOnce.Http

open Program Text

/-- The key in the headers, if the first one is visible text. -/
def headerKey? (headers : List Header) : Option String :=
  (firstValue? headers "idempotency-key").bind visibleText?

theorem chooseKey_header {headers : List Header} {key : String} (h : headerKey? headers = some key)
    (hkey : isBlank key = false) (inBody : String) : chooseKey headers inBody = key := by
  unfold headerKey? at h
  simp [chooseKey, h, hkey]

/-- The body brings a request, up to the key. -/
def Body.AsksButKey (limit time : Span) (asked : InitiationRequest) (b : Body) : Prop :=
  ∃ bytes key, b.Brings limit time bytes ∧
    InitiationRequest.decode (Utf8.glyphs bytes) = .ok { asked with idempotencyKey := key }

/-- The content is a receipt that one of the exchanges has told under a key. -/
def Content.ToldUnder (key : String) (es : List Exchange) (content : Content) : Prop :=
  ∃ receipt : Receipt, content = .json receipt.toJson ∧ ∃ x ∈ es, x.Tells key receipt

section Ordered

variable {σ τ : Type} {env : Environment σ τ} {deadlines : Deadlines} {limits : Limits}
  {span : LogSpan} {budget : Option Span} {r : Request} {headers : List Header}
  {asked : InitiationRequest} {time : Span} {key : String} {s : Progress σ τ}

/-! ## The body's key is not seen -/

/-- What is left to do for a request that names its key in a header, whatever its body. -/
def answerOrder (deadlines : Deadlines) (headers : List Header) (asked : InitiationRequest)
    (time : Span) (key : String) : Program Response :=
  if announcesJson headers then
    .wait time (answerTaken deadlines headers (.ok { asked with idempotencyKey := key }))
  else answerTaken deadlines headers (.error .mediaType)

theorem answerTaken_header (hheader : headerKey? headers = some key) (hkey : isBlank key = false)
    (deadlines : Deadlines) (asked : InitiationRequest) (inBody : String) :
    answerTaken deadlines headers (.ok { asked with idempotencyKey := inBody }) =
      answerTaken deadlines headers (.ok { asked with idempotencyKey := key }) := by
  simp only [answerTaken, postInitiation, InitiationRequest.command, initiationSpan,
    chooseKey_header hheader hkey]

theorem run_handle_order (hr : r.Orders) (hbody : r.body.AsksButKey limits.read time asked)
    (hheader : headerKey? r.headers = some key) (hkey : isBlank key = false) :
    ((handle deadlines limits r).inSpan span).run env budget s =
      ((answerOrder deadlines r.headers asked time key).inSpan span).run env budget s := by
  obtain ⟨bytes, inBody, hbrings, hdecode⟩ := hbody
  unfold answerOrder
  cases hjson : announcesJson r.headers with
  | true =>
    rw [hr.run_handle hbrings hjson, hdecode]
    exact run_wait_congr (fun s => by
      rw [Except.mapError, answerTaken_header hheader hkey]) time s
  | false =>
    rw [hr.handle_eq, takeIn_unannounced hjson]
    rfl

end Ordered

/-! ## All is done under the header's key -/

section Keyed

variable {σ τ : Type} (env : Environment σ τ) (budget : Option Span) (span : LogSpan)
  (deadlines : Deadlines) (headers : List Header) (q : InitiationRequest) (s : Progress σ τ)

theorem did_postInitiation :
    s.Did (PayOnce.Request.Under (chooseKey headers q.idempotencyKey))
      (((postInitiation deadlines headers q).inSpan span).run env budget s).2 := by
  have hkeeps := (obeys_inSpan span _ _).2 ((obeys_inSpan (initiationSpan q) _ _).2
    (Initiation.keeps_initiate (q.command headers env.correlationId) deadlines))
  exact .after rfl (by rintro _ ⟨⟩) (hkeeps.recorded env budget _).1

theorem did_answerError (e : DomainError) (P : PayOnce.Request → Prop) :
    s.Did P (((answerError e).inSpan span).run env budget s).2 := by
  unfold answerError
  cases unhandledNote e with
  | none => exact .nothing rfl
  | some entry => exact .one rfl (by rintro _ ⟨⟩)

/-- Nothing is asked for about another key. -/
theorem did_answerTaken :
    s.Did (PayOnce.Request.Under (chooseKey headers q.idempotencyKey))
      (((answerTaken deadlines headers (.ok q)).inSpan span).run env budget s).2 := by
  have hdid := did_postInitiation env budget span deadlines headers q s
  rw [answerTaken, inSpan_bind, run_bind]
  generalize ((postInitiation deadlines headers q).inSpan span).run env budget s = ran at hdid ⊢
  obtain ⟨a | _, t⟩ := ran
  · cases a with
    | ok receipt => exact hdid
    | error e => exact hdid.trans (did_answerError env budget span t e _)
  all_goals exact hdid

theorem traced_postInitiation (receipt : Receipt)
    (h : (((postInitiation deadlines headers q).inSpan span).run env budget s).1 =
      .finished (.ok receipt)) :
    ∃ x ∈ (postInitiation deadlines headers q).exchanges env budget s,
      x.Tells (chooseKey headers q.idempotencyKey) receipt := by
  have hkeeps := (obeys_unlogged _ _).2
    (Initiation.keeps_initiate (q.command headers env.correlationId) deadlines)
  have hspan := run_unlogged env budget ((postInitiation deadlines headers q).inSpan span) (.refl s)
  have hplain := run_unlogged env budget (postInitiation deadlines headers q) (.refl s)
  have houtline : (postInitiation deadlines headers q).unlogged =
      .ask .correlationId fun id => (initiate (q.command headers id) deadlines).unlogged := by
    unfold postInitiation
    rw [unlogged_inSpan]
    rfl
  rw [unlogged_inSpan, houtline] at hspan
  rw [houtline] at hplain
  rw [← hplain.2]
  exact (hkeeps.recorded env budget s).2 _ (hspan.1.trans h) receipt rfl

theorem status_answerError (e : DomainError) {a : Response}
    (h : (((answerError e).inSpan span).run env budget s).1 = .finished a) : a.status ≠ 201 := by
  have ha : a = domainErrorResponse e := by
    unfold answerError at h
    cases hnote : unhandledNote e <;> rw [hnote] at h <;> cases h <;> rfl
  subst ha
  unfold domainErrorResponse statusAndCode
  cases e <;> simp only <;> split <;> simp [Response.json, Response.withHeader]

/-- Status 201 comes with a receipt that has been told under the key. -/
theorem traced_answerTaken (a : Response)
    (h : (((answerTaken deadlines headers (.ok q)).inSpan span).run env budget s).1 = .finished a)
    (hstatus : a.status = 201) :
    a.content.ToldUnder (chooseKey headers q.idempotencyKey)
      ((answerTaken deadlines headers (.ok q)).exchanges env budget s) := by
  have htraced := traced_postInitiation env budget span deadlines headers q s
  simp only [answerTaken, inSpan_bind, run_bind, exchanges_bind, Content.ToldUnder] at h ⊢
  generalize ((postInitiation deadlines headers q).inSpan span).run env budget s = ran at h htraced
  obtain ⟨answer | _, t⟩ := ran
  · cases answer with
    | ok receipt =>
      cases h
      obtain ⟨x, hx, htells⟩ := htraced receipt rfl
      exact ⟨receipt, rfl, x, List.mem_append_left _ hx, htells⟩
    | error e => exact absurd hstatus (status_answerError env budget span t e h)
  all_goals cases h

theorem did_note {P : PayOnce.Request → Prop} {t : Progress σ τ} (h : s.Did P t)
    (entry : Option LogEntry) : s.Did P (note t entry) := by
  cases entry with
  | none => exact h
  | some e => exact h.trans (.one rfl (by rintro _ ⟨⟩))

end Keyed

/-! ## Requests with a key in a header -/

section Served

variable {σ τ : Type} (env : Environment σ τ) (deadlines : Deadlines) {limits : Limits}
  {r : Request}
  {asked : InitiationRequest} {time : Span} {key : String} (s : Progress σ τ)

/-- What holds of a run of the handler and of the responses that it ends with holds of the response
    that is made of it. -/
theorem respond_of_run {P : PayOnce.Request → Prop} {Q : Content → Prop} (span : LogSpan)
    (hdid : s.Did P (((handle deadlines limits r).inSpan span).run env (some limits.request) s).2)
    (hcreated : ∀ a : Response, (((handle deadlines limits r).inSpan span).run env
      (some limits.request) s).1 = .finished a → a.status = 201 → Q a.content) :
    s.Did P (respond env deadlines limits span r s).2 ∧
      ((respond env deadlines limits span r s).1.status = 201 →
        Q (respond env deadlines limits span r s).1.content) := by
  unfold respond
  split
  · exact ⟨.nothing rfl, nofun⟩
  generalize ((handle deadlines limits r).inSpan span).run env (some limits.request) s = ran
    at hdid hcreated
  obtain ⟨a | _ | _ | p, t⟩ := ran
  · exact ⟨hdid, hcreated a rfl⟩
  · exact ⟨hdid, nofun⟩
  · exact ⟨hdid, nofun⟩
  · exact ⟨did_note s hdid _, nofun⟩

/-- Whatever the response is, nothing has been asked for about another key on the way to it, and a
    receipt has been told under the key. -/
theorem respond_order (hr : r.Orders) (hbody : r.body.AsksButKey limits.read time asked)
    (hheader : headerKey? r.headers = some key) (hkey : isBlank key = false) (span : LogSpan) :
    s.Did (PayOnce.Request.Under key) (respond env deadlines limits span r s).2 ∧
      ((respond env deadlines limits span r s).1.status = 201 →
        (respond env deadlines limits span r s).1.content.ToldUnder key
          ((handle deadlines limits r).exchanges env (some limits.request) s)) := by
  obtain ⟨bytes, inBody, hbrings, hdecode⟩ := hbody
  cases hjson : announcesJson r.headers with
  | false =>
    refine respond_of_run env deadlines s span ?_ ?_
    · rw [hr.handle_eq, takeIn_unannounced hjson]
      exact .nothing rfl
    · rw [hr.handle_eq, takeIn_unannounced hjson]
      rintro _ ⟨⟩
      exact nofun
  | true =>
    let q : InitiationRequest := { asked with idempotencyKey := inBody }
    have hdid := did_answerTaken env (some limits.request) span deadlines r.headers q
      { s with elapsed := s.elapsed + time }
    have htraced := traced_answerTaken env (some limits.request) span deadlines r.headers q
      { s with elapsed := s.elapsed + time }
    rw [chooseKey_header hheader hkey] at hdid htraced
    refine respond_of_run env deadlines s span ?_ ?_
    · rw [hr.run_handle hbrings hjson, hdecode]
      simp only [run]
      split
      · exact hdid
      · exact .nothing rfl
    · rw [hr.run_handle hbrings hjson, hdecode, hr.handle_eq, exchanges_bind,
        run_takeIn hbrings hjson, hdecode]
      simp only [run]
      split
      · intro a ha hstatus
        obtain ⟨receipt, hcontent, x, hx, htells⟩ := htraced a ha hstatus
        exact ⟨receipt, hcontent, x, List.mem_append_right _ hx, htells⟩
      · rintro _ ⟨⟩

/-- A key in the headers that is visible text and not blank overrides the body's. Requests with the
    same headers and with bodies that ask for the same, up to the key, and take the same time to
    come are served alike: with the same response and the same row for the metrics, and the
    collaborators, the signals and the log are left the same. The store and the cache are asked
    about nothing but the header's key, and the receipt in a response of status 201 is one that has
    been told under this key: by the cache, by a payment that holds it, or by one that has just been
    saved with it. -/
theorem header_overrides_body (fresh : Uuid) (hr : r.Orders)
    (hbody : r.body.AsksButKey limits.read time asked) {body' : Body}
    (hbody' : body'.AsksButKey limits.read time asked) (hheader : headerKey? r.headers = some key)
    (hkey : isBlank key = false) :
    serve env deadlines limits fresh { r with body := body' } s =
        serve env deadlines limits fresh r s ∧
      s.Did (PayOnce.Request.Under key) (serve env deadlines limits fresh r s).progress ∧
      ((serve env deadlines limits fresh r s).response.status = 201 →
        (serve env deadlines limits fresh r s).response.content.ToldUnder key
          ((handle deadlines limits r).exchanges env (some limits.request) s)) := by
  have hr' : Request.Orders { r with body := body' } := ⟨hr.method, hr.path⟩
  have habout : r.AboutPayments := .inl ⟨hr.method, by rw [hr.path]; decide⟩
  have hoptions : r.method ≠ "OPTIONS" := by simp [hr.method]
  refine ⟨?_, ?_⟩
  · have hrespond (span : LogSpan) :
        respond env deadlines limits span { r with body := body' } s =
          respond env deadlines limits span r s := by
      unfold respond
      rw [run_handle_order hr' hbody' hheader hkey, run_handle_order hr hbody hheader hkey]
    have hspan (id : Bytes) : requestSpan { r with body := body' } id = requestSpan r id := rfl
    simp only [serve, requestIdOf, hspan, hrespond]
    rfl
  · obtain ⟨hdid, hcreated⟩ := respond_order env deadlines s hr hbody hheader hkey
      (requestSpan r (requestIdOf r fresh))
    simp only [serve, hoptions, if_false, fitMethod_eq habout, Response.withHeaders_kept]
    exact ⟨did_note s hdid _, hcreated⟩

end Served

/-- Collaborators in memory that answer at once. -/
def inMemory : Environment MemoryStore MemoryCache where
  store s c := .immediate s (s.handle c).2 (s.handle c).1
  cache m c := .immediate m (m.handle ⟨10, 0⟩ c).2 (m.handle ⟨10, 0⟩ c).1
  clock := ⟨10, 0⟩
  paymentId n := ⟨BitVec.ofNat 128 (n + 2)⟩
  correlationId := ⟨0⟩

/-- The body of an order with a key. -/
def orderBody (inBody : String) : Body where
  pieces := [⟨0, Utf8.encode (Json.Value.object [("order_id", .text "order-1"),
    ("customer_id", .text "customer-1"), ("amount_cents", .int 100), ("currency", .text "USD"),
    ("idempotency_key", .text inBody)]).render⟩]
  ending := .complete

/-- An order with a key in its headers and another one in its body. -/
def keyedOrder (header inBody : String) : Request where
  method := "POST"
  target := ⟨none, "", "/v1/payments", none⟩
  headers := [⟨"content-type", Utf8.encode "application/json"⟩,
    ⟨"Idempotency-Key", Utf8.encode header⟩]
  body := orderBody inBody

/-- What the order asks for, up to the key. -/
def orderAsked : InitiationRequest :=
  ⟨"order-1", "customer-1", 100, "USD", ""⟩

theorem orderBody_asks {inBody : String} {bytes : Bytes}
    (hbytes : (orderBody inBody).pieces.flatMap Piece.bytes = bytes)
    (hfits : bytes.length ≤ longestBody)
    (hdecode : InitiationRequest.decode (Utf8.glyphs bytes) =
      .ok { orderAsked with idempotencyKey := inBody }) :
    (orderBody inBody).AsksButKey Limits.standard.read 0 orderAsked :=
  ⟨bytes, inBody, ⟨rfl, by decide, by simp [orderBody, Limits.standard, Span.ofSeconds], rfl,
    hbytes, hfits⟩, hdecode⟩

theorem orderBody_asks_first :
    (orderBody "key-1").AsksButKey Limits.standard.read 0 orderAsked :=
  orderBody_asks rfl (by decide +kernel) (by decide +kernel)

theorem orderBody_asks_second :
    (orderBody "key-2").AsksButKey Limits.standard.read 0 orderAsked :=
  orderBody_asks rfl (by decide +kernel) (by decide +kernel)

/-- A key in the headers wins over two different ones in the bodies, and the payment holds it. -/
theorem header_overrides_body_twoKeys :
    serve inMemory .standard .standard ⟨1⟩ (keyedOrder "key-h" "key-2") ⟨{}, {}, 0, 0, []⟩ =
        serve inMemory .standard .standard ⟨1⟩ (keyedOrder "key-h" "key-1") ⟨{}, {}, 0, 0, []⟩ ∧
      (serve inMemory .standard .standard ⟨1⟩ (keyedOrder "key-h" "key-1")
        ⟨{}, {}, 0, 0, []⟩).response.content.ToldUnder "key-h"
          ((handle .standard .standard (keyedOrder "key-h" "key-1")).exchanges inMemory
            (some Limits.standard.request) ⟨{}, {}, 0, 0, []⟩) := by
  have hstatus : (serve inMemory .standard .standard ⟨1⟩ (keyedOrder "key-h" "key-1")
      ⟨{}, {}, 0, 0, []⟩).response.status = 201 := by
    decide +kernel
  have hheader : headerKey? (keyedOrder "key-h" "key-1").headers = some "key-h" := by
    decide +kernel
  obtain ⟨hsame, -, hcreated⟩ := header_overrides_body inMemory .standard ⟨{}, {}, 0, 0, []⟩ ⟨1⟩
    (r := keyedOrder "key-h" "key-1") ⟨rfl, rfl⟩ orderBody_asks_first orderBody_asks_second hheader
    (by decide +kernel)
  exact ⟨hsame, hcreated hstatus⟩

/-- A header that is not blank, but no visible text either, is passed over: the order is served
    under the key in its body. -/
theorem header_passed_over :
    firstValue? (keyedOrder "clé" "key-1").headers "idempotency-key" = some (Utf8.encode "clé") ∧
      isBlank "clé" = false ∧
      (keyedOrder "clé" "key-1").headers = (keyedOrder "clé" "key-2").headers ∧
      (keyedOrder "clé" "key-1").body.AsksButKey Limits.standard.read 0 orderAsked ∧
      (keyedOrder "clé" "key-2").body.AsksButKey Limits.standard.read 0 orderAsked ∧
      (serve inMemory .standard .standard ⟨1⟩ (keyedOrder "clé" "key-1")
        ⟨{}, {}, 0, 0, []⟩).progress.store.payments.map PaymentFacts.idempotencyKey = ["key-1"] ∧
      (serve inMemory .standard .standard ⟨1⟩ (keyedOrder "clé" "key-2")
        ⟨{}, {}, 0, 0, []⟩).progress.store.payments.map PaymentFacts.idempotencyKey = ["key-2"] :=
  ⟨by decide +kernel, by decide +kernel, rfl, orderBody_asks_first, orderBody_asks_second,
    by decide +kernel, by decide +kernel⟩

end PayOnce.Http
