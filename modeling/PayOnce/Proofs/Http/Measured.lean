import PayOnce.Proofs.Http.Layers
import Mathlib.Data.List.Forall2
/-!
Requests that are served one after the other. Whatever they ask for and whatever the collaborators
do, each of them is answered in time, and each of them is counted once, under the status that the
client receives; only questions about what is allowed are not counted.
-/

namespace PayOnce

namespace Http

variable {σ τ : Type}

/-! ## Labels -/

/-- The templates of all routes, and the label of what matches none of them. -/
def labels : List String :=
  ["/health", "/healthz/live", "/healthz/ready", "/v1/payments", "/v1/payments/\x7bpayment_id\x7d",
    Route.unknownLabel]

/-- However many paths there are, requests are counted under few labels. -/
theorem requestLabel_mem (r : Request) : requestLabel r ∈ labels := by
  unfold requestLabel
  cases Route.ofPath? r.target.path with
  | none => simp [labels]
  | some route => cases route <;> simp [labels, Route.label]

/-! ## Single requests -/

/-- The row under which a request is counted that has been answered with a status. -/
def countedAs (r : Request) (status : Nat) : Option MetricsRow :=
  if r.method = "OPTIONS" then none else some ⟨r.method, requestLabel r, status⟩

/-- Whatever the work on a request is and however it ends, the layers around it see to one response
    and to one row with its status. A question about what is allowed leaves no row, and never gets
    to the work. -/
theorem layered_settles (limits : Limits) (fresh : Uuid) (work : Work σ τ) (r : Request)
    (s : Progress σ τ) :
    let h := layered limits fresh work r s
    ∃ a, h.reaction = .response a ∧ h.rows = (countedAs r a.status).toList ∧
      (r.method = "OPTIONS" → a.status = 200 ∧ h.progress = s ∧
        ∀ work', layered limits fresh work' r s = h) ∧
      (r.method ≠ "OPTIONS" → a.status =
        (attempt limits.request (requestSpan r (requestIdOf r fresh)) work r s).1.status) := by
  intro h
  by_cases hmethod : r.method = "OPTIONS"
  · have hoptions (work' : Work σ τ) := layered_options limits fresh work' hmethod s
    have hh : h = _ := hoptions work
    rw [hh]
    refine ⟨_, rfl, ?_, ?_, fun hne => absurd hmethod hne⟩
    · rw [countedAs, if_pos hmethod]
      rfl
    · intro _
      refine ⟨?_, rfl, hoptions⟩
      exact ((preflight r).withHeaders_kept shareHeaders).1.trans (status_preflight r)
  · obtain ⟨a, hreaction, hstatus, hrows⟩ := answers_layered limits fresh work hmethod s
    refine ⟨a, hreaction, ?_, fun heq => absurd heq hmethod, fun _ => hstatus⟩
    rw [countedAs, if_neg hmethod, hstatus]
    exact hrows

section Serve

variable (env : Environment σ τ) (deadlines : Deadlines) (limits : Limits) (fresh : Uuid)
  {r : Request} (s : Progress σ τ)

theorem serve_settles :
    let served := serve env deadlines limits fresh r s
    served.row = countedAs r served.response.status ∧
      (r.method = "OPTIONS" → served.response.status = 200 ∧ served.progress = s) ∧
      (r.method ≠ "OPTIONS" → served.response.status =
        (attempt limits.request (requestSpan r (requestIdOf r fresh))
          (handlers env deadlines limits) r s).1.status) := by
  intro served
  obtain ⟨a, hreaction, hrows, hoptions, hother⟩ :=
    layered_settles limits fresh (handlers env deadlines limits) r s
  rw [layered_handlers] at hreaction hrows hoptions
  injection hreaction with hresponse
  subst hresponse
  refine ⟨?_, fun h => ⟨(hoptions h).1, (hoptions h).2.1⟩, hother⟩
  simpa using congrArg List.head? hrows

theorem elapsed_note (entry : Option LogEntry) : (note s entry).elapsed = s.elapsed := by
  cases entry <;> rfl

theorem respond_in_time (span : LogSpan) (hs : s.elapsed ≤ limits.request) :
    (respond env deadlines limits span r s).2.elapsed ≤ limits.request := by
  have hwithin := (Program.run_within env limits.request
    ((handle deadlines limits r).inSpan span) hs).2
  unfold respond
  split
  · exact hs
  · generalize ((handle deadlines limits r).inSpan span).run env (some limits.request) s = ran
      at hwithin
    rcases ran with ⟨a | _ | _ | p, s'⟩
    · exact hwithin
    · exact hwithin
    · exact hwithin
    · exact Nat.le_trans (Nat.le_of_eq (elapsed_note s' _)) hwithin

theorem serve_in_time (hs : s.elapsed ≤ limits.request) :
    (serve env deadlines limits fresh r s).progress.elapsed ≤ limits.request := by
  by_cases hmethod : r.method = "OPTIONS"
  · rw [((serve_settles env deadlines limits fresh s).2.1 hmethod).2]
    exact hs
  · simp only [serve, if_neg hmethod, elapsed_note]
    exact respond_in_time env deadlines limits s _ hs

variable {limits}

/-- A path that names nothing is not found. -/
theorem attempt_unmatched (hlimit : limits.request ≠ 0) (span : LogSpan)
    (hroute : Route.ofPath? r.target.path = none) :
    attempt limits.request span (handlers env deadlines limits) r s =
      (.response (.empty 404), s) := by
  simp only [attempt, if_neg hlimit, handlers, handle, hroute]
  rfl

/-- A resource refuses methods that it does not have. -/
theorem attempt_refused (hlimit : limits.request ≠ 0) (span : LogSpan) {route : Route}
    (hroute : Route.ofPath? r.target.path = some route) (hmethod : r.method ∉ route.methods) :
    attempt limits.request span (handlers env deadlines limits) r s =
      (.response (.empty 405), s) := by
  simp only [attempt, if_neg hlimit, handlers, handle, hroute, Route.handle, if_neg hmethod]
  rfl

end Serve

/-! ## Requests one after the other -/

/-- A request that comes in, what the collaborators make of calls while it is served, and an id for
    it in case that it has none. -/
structure Arrival (σ τ : Type) where
  env : Environment σ τ
  fresh : Uuid
  request : Request

/-- Serves requests one after the other, each one on a timer of its own. -/
def serveAll (deadlines : Deadlines) (limits : Limits) :
    List (Arrival σ τ) → Progress σ τ → List (Served σ τ)
  | [], _ => []
  | a :: arrivals, s =>
    let served := serve a.env deadlines limits a.fresh a.request
      { s with elapsed := 0, events := [] }
    served :: serveAll deadlines limits arrivals served.progress

/-- A request is answered as it should be: in time, and counted as it was answered. -/
structure Settled (deadlines : Deadlines) (limits : Limits) (a : Arrival σ τ)
    (served : Served σ τ) : Prop where
  inTime : served.progress.elapsed ≤ limits.request
  counted : served.row = countedAs a.request served.response.status
  /-- A question about what is allowed changes nothing. Any other request gets the status that the
      work on it comes to, from a fresh timer on. -/
  answered : ∃ s : Progress σ τ, s.elapsed = 0 ∧ s.events = [] ∧
    served = serve a.env deadlines limits a.fresh a.request s ∧
    (a.request.method = "OPTIONS" → served.response.status = 200 ∧ served.progress = s) ∧
    (a.request.method ≠ "OPTIONS" → served.response.status =
      (attempt limits.request (requestSpan a.request (requestIdOf a.request a.fresh))
        (handlers a.env deadlines limits) a.request s).1.status)
  unmatched : a.request.method ≠ "OPTIONS" → limits.request ≠ 0 →
    Route.ofPath? a.request.target.path = none → served.response.status = 404
  refused : ∀ route, a.request.method ≠ "OPTIONS" → limits.request ≠ 0 →
    Route.ofPath? a.request.target.path = some route → a.request.method ∉ route.methods →
      served.response.status = 405

theorem settled_serve (deadlines : Deadlines) (limits : Limits) (a : Arrival σ τ)
    {s : Progress σ τ} (helapsed : s.elapsed = 0) (hevents : s.events = []) :
    Settled deadlines limits a (serve a.env deadlines limits a.fresh a.request s) := by
  obtain ⟨hrow, hoptions, hother⟩ := serve_settles a.env deadlines limits a.fresh (r := a.request) s
  refine ⟨?_, hrow, ⟨s, helapsed, hevents, rfl, hoptions, hother⟩, ?_, ?_⟩
  · exact serve_in_time _ _ _ _ _ (helapsed ▸ Nat.zero_le _)
  · intro hmethod hlimit hroute
    rw [hother hmethod, attempt_unmatched _ _ _ hlimit _ hroute]
    rfl
  · intro route hmethod hlimit hroute hrefused
    rw [hother hmethod, attempt_refused _ _ _ hlimit _ hroute hrefused]
    rfl

theorem settled_serveAll (deadlines : Deadlines) (limits : Limits) (arrivals : List (Arrival σ τ))
    (s : Progress σ τ) :
    List.Forall₂ (Settled deadlines limits) arrivals (serveAll deadlines limits arrivals s) := by
  induction arrivals generalizing s with
  | nil => exact .nil
  | cons a arrivals ih => exact .cons (settled_serve deadlines limits a rfl rfl) (ih _)

/-- The rows of requests that are answered as they should be are theirs, each one counted as it was
    answered. -/
theorem rows_of_settled {deadlines : Deadlines} {limits : Limits} {arrivals : List (Arrival σ τ)}
    {answers : List (Served σ τ)} (h : List.Forall₂ (Settled deadlines limits) arrivals answers) :
    answers.filterMap (·.row) = (arrivals.zip answers).filterMap fun x =>
      countedAs x.1.request x.2.response.status := by
  induction h with
  | nil => rfl
  | cons hsettled _ ih =>
    rw [List.filterMap_cons, List.zip_cons_cons, List.filterMap_cons, hsettled.counted, ih]

/-- Every request is answered once and counted once. Whatever the work on a request is, and whether
    it answers, panics or never ends, the layers around it see to one response and to one row under
    the status of that response, except for questions about what is allowed, which leave no row and
    never get to the work. The server is these layers around the handlers. So in every sequence of
    requests, over collaborators that do what they like, each request is answered by the end of its
    limit, and the rows are those of the requests in their order, under few labels. -/
theorem answered_and_counted_once (deadlines : Deadlines) (limits : Limits) :
    (∀ (work : Work σ τ) (fresh : Uuid) (r : Request) (s : Progress σ τ),
      let h := layered limits fresh work r s
      ∃ a, h.reaction = .response a ∧ h.rows = (countedAs r a.status).toList ∧
        (r.method = "OPTIONS" → a.status = 200 ∧ h.progress = s ∧
          ∀ work', layered limits fresh work' r s = h) ∧
        (r.method ≠ "OPTIONS" → a.status =
          (attempt limits.request (requestSpan r (requestIdOf r fresh)) work r s).1.status)) ∧
    (∀ (env : Environment σ τ) (fresh : Uuid) (r : Request) (s : Progress σ τ),
      let served := serve env deadlines limits fresh r s
      layered limits fresh (handlers env deadlines limits) r s =
        ⟨.response served.response, served.row.toList, served.progress⟩) ∧
    (∀ (arrivals : List (Arrival σ τ)) (s : Progress σ τ),
      let answers := serveAll deadlines limits arrivals s
      List.Forall₂ (Settled deadlines limits) arrivals answers ∧
        answers.filterMap (·.row) = (arrivals.zip answers).filterMap fun x =>
          countedAs x.1.request x.2.response.status) ∧
    ∀ r, requestLabel r ∈ labels := by
  refine ⟨?_, ?_, ?_, requestLabel_mem⟩
  · intro work fresh r s
    exact layered_settles limits fresh work r s
  · intro env fresh r s
    exact layered_handlers env deadlines limits fresh r s
  · intro arrivals s
    have hsettled := settled_serveAll deadlines limits arrivals s
    exact ⟨hsettled, rows_of_settled hsettled⟩

/-- A store that panics, beside a cache that never answers. -/
def wrecked : Environment Unit Unit where
  store _ _ := ⟨(), 0, (), .panic (.text "boom")⟩
  cache _ _ := .silent ()
  clock := ⟨10, 0⟩
  paymentId n := ⟨BitVec.ofNat 128 (n + 2)⟩
  correlationId := ⟨0⟩

/-- A request without headers and body. -/
def plainRequest (method path : String) : Request where
  method
  target := ⟨none, "", path, none⟩
  headers := []
  body := ⟨[], .complete⟩

/-- A panic, an order that takes too long, a path that names nothing, a method that is refused, and
    a question: all but the last one are counted. -/
theorem answered_and_counted_once_wrecked :
    let limits : Limits := ⟨.ofSeconds 10, .ofMillis 100⟩
    let requests := [plainRequest "GET" "/v1/payments/00000000-0000-0000-0000-000000000001",
      plainOrder, plainRequest "GET" "/nowhere", plainRequest "PUT" "/health",
      plainRequest "OPTIONS" "/v1/payments"]
    (serveAll .standard limits (requests.map fun r => ⟨wrecked, ⟨1⟩, r⟩)
        ⟨(), (), 0, 0, []⟩).filterMap (·.row) =
      [⟨"GET", "/v1/payments/{payment_id}", 500⟩, ⟨"POST", "/v1/payments", 408⟩,
        ⟨"GET", "unknown", 404⟩, ⟨"PUT", "/health", 405⟩] := by
  intro limits requests
  obtain ⟨-, -, hsequence, -⟩ := answered_and_counted_once (σ := Unit) (τ := Unit) .standard limits
  rw [(hsequence _ _).2]
  decide +kernel

end Http

end PayOnce
