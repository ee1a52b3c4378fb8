import PayOnce.Http.Server
import PayOnce.Lab.Collaborators
import PayOnce.Proofs.Service.Words
/-!
Discretion. What has failed inside the service is not told to clients who ask about payments: their
responses do not depend on the words in which it failed, and those of status 500 are all the same.
-/

namespace PayOnce.Http

open Program

/-- A request to initiate a payment, or to see one. -/
def Request.AboutPayments (r : Request) : Prop :=
  (r.method = "POST" ∧ Route.ofPath? r.target.path = some .payments) ∨
    (r.method = "GET" ∧ ∃ segment, Route.ofPath? r.target.path = some (.payment segment))

/-- All that a client is told of a failure inside the service. -/
def internalError : Content :=
  .json (errorBody "internal_error" "an unexpected error occurred")

/-- A response that tells of a failure inside the service tells nothing else. -/
def Response.Discreet (a : Response) : Prop :=
  a.status = 500 → a.content = internalError

/-- Two responses that are one discreet response. -/
def Response.SameDiscreet (a a' : Response) : Prop :=
  a = a' ∧ a.Discreet

/-- A response of any other status may say what it likes. -/
theorem Response.sameDiscreet_self {a : Response} (h : a.status ≠ 500) : a.SameDiscreet a :=
  ⟨rfl, fun h' => absurd h' h⟩

/-! ## Errors -/

theorem discreet_domainErrorResponse (e : DomainError) : (domainErrorResponse e).Discreet := by
  intro hstatus
  cases e with
  | infrastructure detail => rfl
  | _ => simp [domainErrorResponse, statusAndCode, DomainError.mayRetry, Response.json,
      Response.withHeader] at hstatus

theorem domainErrorResponse_eq {e e' : DomainError} (h : e.Rewords e') :
    domainErrorResponse e = domainErrorResponse e' := by
  cases h with
  | same => rfl
  | infrastructure detail detail' => rfl

theorem sameDiscreet_domainErrorResponse {e e' : DomainError} (h : e.Rewords e') :
    (domainErrorResponse e).SameDiscreet (domainErrorResponse e') :=
  ⟨domainErrorResponse_eq h, discreet_domainErrorResponse e⟩

/-- The words of an error go to the log only. -/
theorem alike_answerError {e e' : DomainError} (h : e.Rewords e') :
    Alike Response.SameDiscreet (answerError e) (answerError e') := by
  have hresponse := sameDiscreet_domainErrorResponse h
  cases h with
  | same => cases e with
    | infrastructure detail => exact .log (.done hresponse)
    | _ => exact .done hresponse
  | infrastructure detail detail' => exact .log (.done hresponse)

/-! ## Handlers -/

theorem alike_await (limit delay : Span) : Alike Eq (await limit delay) (await limit delay) := by
  unfold await
  split
  · exact .wait (.done rfl)
  · exact .wait (.done rfl)

/-- Taking in a body is nobody else's affair. -/
theorem alike_collect (limit : Span) (ending : BodyEnd) (ps : List Piece) (size : Nat)
    (done : List UInt8) :
    Alike Eq (collect limit ending ps size done) (collect limit ending ps size done) := by
  induction ps generalizing size done with
  | nil => cases ending with
    | complete => exact .bind (alike_await ..) fun _ _ h => h ▸ .done rfl
    | silent => exact .wait (.done rfl)
    | broken detail => exact .bind (alike_await ..) fun _ _ h => h ▸ .done rfl
  | cons p ps ih =>
    refine .bind (alike_await ..) fun taken _ h => h ▸ ?_
    cases taken with
    | error fault => exact .done rfl
    | ok _ =>
      simp only
      split
      · exact .done rfl
      · exact ih _ _

theorem alike_takeIn (limit : Span) (r : Request) : Alike Eq (takeIn limit r) (takeIn limit r) := by
  unfold takeIn
  split
  · refine .bind (alike_collect ..) fun taken _ h => h ▸ ?_
    cases taken <;> exact .done rfl
  · exact .done rfl

theorem alike_postInitiation (deadlines : Deadlines) (headers : List Header)
    (r : InitiationRequest) :
    Alike (SameButError DomainError.Rewords) (postInitiation deadlines headers r)
      (postInitiation deadlines headers r) :=
  .inSpan (.bind (alike_query _) fun _ _ h => h ▸ .bind (alike_report ..) fun _ _ _ =>
    alike_initiate ..) _

theorem alike_postPayment (deadlines : Deadlines) (limits : Limits) (r : Request) :
    Alike Response.SameDiscreet (postPayment deadlines limits r)
      (postPayment deadlines limits r) := by
  refine .bind (alike_takeIn ..) fun taken _ h => h ▸ ?_
  cases taken with
  | error fault => exact .done (Response.sameDiscreet_self (by simp [Response.json]))
  | ok request =>
    refine .bind (alike_postInitiation ..) fun answer answer' h => ?_
    cases h with
    | ok receipt => exact .done (Response.sameDiscreet_self (by simp [Response.json]))
    | error h => exact alike_answerError h

theorem alike_showPayment (segment : String) :
    Alike Response.SameDiscreet (showPayment segment) (showPayment segment) := by
  unfold showPayment
  cases Route.segmentText? segment with
  | none => exact .done (Response.sameDiscreet_self (by simp [Response.text]))
  | some text =>
    simp only
    cases readPaymentId text with
    | error e => exact alike_answerError (.same _)
    | ok id =>
      refine .bind (alike_viewPayment id) fun answer answer' h => ?_
      cases h with
      | ok view => exact .done (Response.sameDiscreet_self (by simp [Response.json]))
      | error h => exact alike_answerError h

theorem alike_handle (deadlines : Deadlines) (limits : Limits) {r : Request}
    (hr : r.AboutPayments) :
    Alike Response.SameDiscreet (handle deadlines limits r) (handle deadlines limits r) := by
  rcases hr with ⟨hmethod, hroute⟩ | ⟨hmethod, segment, hroute⟩
  · simp only [handle, hroute, Route.handle, hmethod]
    exact alike_postPayment ..
  · simp only [handle, hroute, Route.handle, hmethod]
    exact alike_showPayment ..

/-! ## Responses -/

section

variable {σ τ : Type} {env env' : Environment σ τ} {s s' : Progress σ τ}

theorem matches_note (h : s.Matches s') (e e' : Option LogEntry) :
    (note s e).Matches (note s' e') := by
  cases e <;> cases e' <;>
    exact ⟨h.store, h.cache, h.issued, h.elapsed, by simp [note, Event.outward, h.events]⟩

/-- Whatever becomes of handlers that are alike, the responses are one discreet response. -/
theorem respond_alike (henv : env.Rewords env') {deadlines : Deadlines} {limits : Limits}
    {r r' : Request} (hhandle : Alike Response.SameDiscreet (handle deadlines limits r)
      (handle deadlines limits r')) (span span' : LogSpan) (hs : s.Matches s') :
    (respond env deadlines limits span r s).1.SameDiscreet
        (respond env' deadlines limits span' r' s').1 ∧
      (respond env deadlines limits span r s).2.Matches
        (respond env' deadlines limits span' r' s').2 := by
  unfold respond
  have htimeout : (Response.empty 408).SameDiscreet (.empty 408) :=
    Response.sameDiscreet_self (by simp [Response.empty])
  split
  · exact ⟨htimeout, hs⟩
  · obtain ⟨houtcome, hprogress⟩ :=
      (hhandle.inSpans span span').run henv (some limits.request) hs
    generalize ((handle deadlines limits r).inSpan span).run env (some limits.request) s = ran,
      ((handle deadlines limits r').inSpan span').run env' (some limits.request) s' = ran'
      at houtcome hprogress
    obtain ⟨outcome, t⟩ := ran
    obtain ⟨outcome', t'⟩ := ran'
    cases houtcome with
    | finished h => exact ⟨h, hprogress⟩
    | cutOff => exact ⟨htimeout, hprogress⟩
    | hung => exact ⟨htimeout, hprogress⟩
    | panicked p p' =>
      simp only
      exact ⟨sameDiscreet_domainErrorResponse (.infrastructure _ _), matches_note hprogress _ _⟩

/-- Whatever becomes of the handler, the response is discreet and does not depend on words. -/
theorem respond_rewords (henv : env.Rewords env') (deadlines : Deadlines) (limits : Limits)
    (span : LogSpan) {r : Request} (hr : r.AboutPayments) (hs : s.Matches s') :
    (respond env deadlines limits span r s).1.SameDiscreet
        (respond env' deadlines limits span r s').1 ∧
      (respond env deadlines limits span r s).2.Matches
        (respond env' deadlines limits span r s').2 :=
  respond_alike henv (alike_handle deadlines limits hr) span span hs

end

/-- More headers leave a response as it is otherwise. -/
theorem Response.withHeaders_kept (a : Response) (headers : List (String × String)) :
    (a.withHeaders headers).status = a.status ∧ (a.withHeaders headers).content = a.content := by
  unfold withHeaders
  induction headers generalizing a with
  | nil => exact ⟨rfl, rfl⟩
  | cons header headers ih => exact ih _

/-- What is told of a failure is not changed on the way to the client. -/
theorem Response.Discreet.of_eq {a a' : Response} (h : a.Discreet) (hstatus : a'.status = a.status)
    (hcontent : a'.content = a.content) : a'.Discreet :=
  fun h' => hcontent.trans (h (hstatus ▸ h'))

theorem fitMethod_eq {r : Request} (hr : r.AboutPayments) (a : Response) : fitMethod r a = a := by
  rcases hr with ⟨hmethod, hroute⟩ | ⟨hmethod, segment, hroute⟩
  · simp [fitMethod, hmethod, hroute, Route.methods]
  · simp [fitMethod, hmethod, hroute, Route.methods]

/-- Clients who ask about payments are told nothing of what has failed inside the service. Their
    responses do not depend on the words of errors and panics, nor do the row for the metrics, the
    states in which the collaborators are left, and all else but the log; and every response of
    status 500 has the same content. -/
theorem failures_stay_inside {σ τ : Type} {env env' : Environment σ τ} (henv : env.Rewords env')
    (deadlines : Deadlines) (limits : Limits) (fresh : Uuid) {r : Request} (hr : r.AboutPayments)
    (s : Progress σ τ) :
    (serve env deadlines limits fresh r s).response =
        (serve env' deadlines limits fresh r s).response ∧
      (serve env deadlines limits fresh r s).row = (serve env' deadlines limits fresh r s).row ∧
      (serve env deadlines limits fresh r s).progress.Matches
        (serve env' deadlines limits fresh r s).progress ∧
      ((serve env deadlines limits fresh r s).response.status = 500 →
        (serve env deadlines limits fresh r s).response.content = internalError) := by
  have hoptions : r.method ≠ "OPTIONS" := by
    rcases hr with ⟨hmethod, -⟩ | ⟨hmethod, -⟩ <;> simp [hmethod]
  obtain ⟨⟨hsame, hdiscreet⟩, hprogress⟩ := respond_rewords henv deadlines limits
    (requestSpan r (requestIdOf r fresh)) hr (Progress.Matches.refl s)
  simp only [serve, hoptions, if_false, fitMethod_eq hr, ← hsame]
  refine ⟨trivial, trivial, matches_note hprogress _ _, hdiscreet.of_eq ?_ ?_⟩
  · simp only [Response.withHeaders_kept]
  · simp only [Response.withHeaders_kept]

/-- Nothing works, and the collaborators say so in some words. -/
def troubled (words : String) : Environment Unit Unit where
  store _ c := .immediate () () (Lab.failedReply (.infrastructure words) c)
  cache _ c := .immediate () () (Lab.failedCacheReply (.corrupt words) c)
  clock := ⟨10, 0⟩
  paymentId n := ⟨BitVec.ofNat 128 (n + 2)⟩
  correlationId := ⟨0⟩

/-- A request for an initiation with nothing wrong about it. -/
def plainOrder : Request where
  method := "POST"
  target := ⟨none, "", "/v1/payments", none⟩
  headers := [⟨"content-type", Text.Utf8.encode "application/json"⟩]
  body := ⟨[⟨0, Text.Utf8.encode (Json.Value.object [("order_id", .text "order-1"),
    ("customer_id", .text "customer-1"), ("amount_cents", .int 100), ("currency", .text "USD"),
    ("idempotency_key", .text "key-1")]).render⟩], .complete⟩

/-- The order fails with status 500, and the client does not learn whether a disk or a password is
    the reason. -/
theorem failures_stay_inside_troubled :
    (serve (troubled "disk full") .standard .standard ⟨1⟩ plainOrder ⟨(), (), 0, 0, []⟩).response =
      (serve (troubled "wrong password") .standard .standard ⟨1⟩ plainOrder
        ⟨(), (), 0, 0, []⟩).response ∧
    (serve (troubled "disk full") .standard .standard ⟨1⟩ plainOrder
      ⟨(), (), 0, 0, []⟩).response.status = 500 ∧
    (serve (troubled "disk full") .standard .standard ⟨1⟩ plainOrder
      ⟨(), (), 0, 0, []⟩).response.content = internalError := by
  have hwords : (troubled "disk full").Rewords (troubled "wrong password") := by
    refine ⟨fun _ c => ⟨rfl, rfl, rfl, .answer ?_⟩, fun _ c => ⟨rfl, rfl, rfl, .answer ?_⟩, rfl,
      rfl, rfl⟩
    · cases c with
      | save p => exact ⟨.error (.infrastructure _ _), rfl⟩
      | _ => exact .error (.infrastructure _ _)
    · cases c <;> exact .error (.corrupt _ _)
  have habout : plainOrder.AboutPayments := .inl ⟨rfl, by decide +kernel⟩
  obtain ⟨hresponse, -, -, hcontent⟩ :=
    failures_stay_inside hwords .standard .standard ⟨1⟩ habout ⟨(), (), 0, 0, []⟩
  have hstatus : (serve (troubled "disk full") .standard .standard ⟨1⟩ plainOrder
      ⟨(), (), 0, 0, []⟩).response.status = 500 := by
    decide +kernel
  exact ⟨hresponse, hstatus, hcontent hstatus⟩

end PayOnce.Http
