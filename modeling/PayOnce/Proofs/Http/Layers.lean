import PayOnce.Proofs.Http.Discretion
/-!
The layers of the server. Around the work on a request lie layers, each of which may look at the
request, decide whether the work is begun, and change what comes of it. Taken one by one they keep
what the layers inside them have achieved: that the work ends, that it ends with a response, and
that the response is counted. What the server does is what all of them do together.
-/

namespace PayOnce

/-! ## Runs with a budget -/

/-- A call that is made under a budget has come to an end when the budget has. It expires only if it
    has a limit. -/
def Verdict.Within {ρ : Type} (limit : Option Span) (budget : Span) : Verdict ρ → Prop
  | ended t _ => t ≤ budget
  | panicked t _ => t ≤ budget
  | expired t => limit ≠ none ∧ t ≤ budget
  | cutOff => True
  | hung => False

theorem le_of_withinBudget {budget t : Span} (h : withinBudget (some budget) t = true) :
    t ≤ budget :=
  Nat.le_of_lt (of_decide_eq_true h)

theorem Conduct.verdict_within {σ ρ : Type} (c : Conduct σ ρ) (limit : Option Span)
    (budget start : Span) : (c.verdict limit (some budget) start).Within limit budget := by
  have hcut {t : Span} {v : Verdict ρ} (hv : t ≤ budget → v.Within limit budget) :
      (if withinBudget (some budget) t then v else .cutOff).Within limit budget := by
    split
    · next h => exact hv (le_of_withinBudget h)
    · trivial
  unfold verdict
  cases limit with
  | none =>
    cases c.ending with
    | never => trivial
    | answer r => exact hcut id
    | panic p => exact hcut id
  | some d =>
    have hlate := hcut (t := start + d) (v := .expired (start + d))
      fun h => ⟨Option.some_ne_none d, h⟩
    cases c.ending with
    | never => exact hlate
    | answer r =>
      simp only
      split
      · exact hcut id
      · exact hlate
    | panic p =>
      simp only
      split
      · exact hcut id
      · exact hlate

/-- A run with a budget comes to an end, and by the end of its budget. -/
theorem Program.run_within {α σ τ : Type} (env : Environment σ τ) (budget : Span) (p : Program α)
    {s : Progress σ τ} (hs : s.elapsed ≤ budget) :
    (p.run env (some budget) s).1 ≠ .hung ∧ (p.run env (some budget) s).2.elapsed ≤ budget := by
  induction p generalizing s with
  | done a => exact ⟨by rintro ⟨⟩, hs⟩
  | store c next ih =>
    have hwithin := (env.store s.store c).verdict_within none budget s.elapsed
    simp only [run]
    cases hverdict : (env.store s.store c).verdict none (some budget) s.elapsed with
    | ended t r =>
      rw [hverdict] at hwithin
      exact ih r hwithin
    | panicked t p =>
      rw [hverdict] at hwithin
      exact ⟨by rintro ⟨⟩, hwithin⟩
    | expired t =>
      rw [hverdict] at hwithin
      exact absurd rfl hwithin.1
    | cutOff => exact ⟨by rintro ⟨⟩, Nat.le_refl _⟩
    | hung =>
      rw [hverdict] at hwithin
      exact hwithin.elim
  | storeWithin limit c next ih =>
    have hwithin := (env.store s.store c).verdict_within (some limit) budget s.elapsed
    simp only [run]
    cases hverdict : (env.store s.store c).verdict (some limit) (some budget) s.elapsed with
    | ended t r =>
      rw [hverdict] at hwithin
      exact ih (some r) hwithin
    | panicked t p =>
      rw [hverdict] at hwithin
      exact ⟨by rintro ⟨⟩, hwithin⟩
    | expired t =>
      rw [hverdict] at hwithin
      exact ih none hwithin.2
    | cutOff => exact ⟨by rintro ⟨⟩, Nat.le_refl _⟩
    | hung =>
      rw [hverdict] at hwithin
      exact hwithin.elim
  | cacheWithin limit c next ih =>
    have hwithin := (env.cache s.cache c).verdict_within (some limit) budget s.elapsed
    simp only [run]
    cases hverdict : (env.cache s.cache c).verdict (some limit) (some budget) s.elapsed with
    | ended t r =>
      rw [hverdict] at hwithin
      exact ih (some r) hwithin
    | panicked t p =>
      rw [hverdict] at hwithin
      exact ⟨by rintro ⟨⟩, hwithin⟩
    | expired t =>
      rw [hverdict] at hwithin
      exact ih none hwithin.2
    | cutOff => exact ⟨by rintro ⟨⟩, Nat.le_refl _⟩
    | hung =>
      rw [hverdict] at hwithin
      exact hwithin.elim
  | ask q next ih => cases q <;> exact ih _ hs
  | signal g next ih => exact ih hs
  | log e next ih => exact ih hs
  | wait d next ih =>
    simp only [run]
    split
    · next h => exact ih (le_of_withinBudget h)
    · exact ⟨by rintro ⟨⟩, Nat.le_refl _⟩

namespace Http

variable {σ τ : Type}

/-! ## Services and layers -/

/-- How the work on a request ends. -/
inductive Reaction
  | response (a : Response)
  | panic (p : PanicPayload)
  /-- Not at all, as far as one has waited. -/
  | silence

/-- Does something about the response, if there is one. -/
def Reaction.map (f : Response → Response) : Reaction → Reaction
  | response a => response (f a)
  | panic p => panic p
  | silence => silence

/-- What comes of a request: how the work ends, the rows that are recorded on the way, and how far
    it has come. -/
structure Handling (σ τ : Type) where
  reaction : Reaction
  rows : List MetricsRow
  progress : Progress σ τ

/-- Something that takes requests. -/
abbrev Service (σ τ : Type) := Request → Progress σ τ → Handling σ τ

/-- The work on a request in a stretch of the log, for as long as one waits for it. -/
abbrev Work (σ τ : Type) := LogSpan → Span → Request → Progress σ τ → Reaction × Progress σ τ

/-- The work of the handlers. -/
def handlers (env : Environment σ τ) (deadlines : Deadlines) (limits : Limits) : Work σ τ :=
  fun span budget r s =>
    match ((handle deadlines limits r).inSpan span).run env (some budget) s with
    | (.finished a, s) => (.response a, s)
    | (.panicked p, s) => (.panic p, s)
    | (.cutOff, s) => (.silence, s)
    | (.hung, s) => (.silence, s)

/-- What comes of the work within a limit. A limit of zero is over before the work begins. -/
def attempt (limit : Span) (span : LogSpan) (work : Work σ τ) (r : Request) (s : Progress σ τ) :
    Reaction × Progress σ τ :=
  if limit = 0 then (.silence, s) else work span limit r s

/-- Answers for work that has not come to an end within a limit. -/
def limited (limit : Span) (span : LogSpan) (work : Work σ τ) : Service σ τ := fun r s =>
  match attempt limit span work r s with
  | (.silence, s) => ⟨.response (.empty 408), [], s⟩
  | (reaction, s) => ⟨reaction, [], s⟩

/-- Answers for work that panics. -/
def recovering (span : LogSpan) (inner : Service σ τ) : Service σ τ := fun r s =>
  let h := inner r s
  match h.reaction with
  | .panic p =>
    let e := panicError p
    { h with
      reaction := .response (domainErrorResponse e)
      progress := note h.progress ((unhandledNote e).map (·.within span)) }
  | _ => h

/-- Records a row for every response, and for nothing else. -/
def measuring (inner : Service σ τ) : Service σ τ := fun r s =>
  let h := inner r s
  match h.reaction with
  | .response a => { h with rows := h.rows ++ [⟨r.method, requestLabel r, a.status⟩] }
  | _ => h

/-- Makes a response fit the method of the request. -/
def fitting (inner : Service σ τ) : Service σ τ := fun r s =>
  let h := inner r s
  { h with reaction := h.reaction.map (fitMethod r) }

/-- Answers questions about what is allowed, and adds the headers for browsers to every response. -/
def sharing (inner : Service σ τ) : Service σ τ := fun r s =>
  if r.method = "OPTIONS" then ⟨.response ((preflight r).withHeaders shareHeaders), [], s⟩
  else
    let h := inner r s
    { h with reaction := h.reaction.map fun a =>
        (a.withHeaders exposeHeaders).withHeaders shareHeaders }

/-- Adds the id of the request to every response. -/
def echoing (requestId : Bytes) (inner : Service σ τ) : Service σ τ := fun r s =>
  let h := inner r s
  { h with reaction := h.reaction.map fun a =>
      { a with headers := a.headers ++ [⟨"x-request-id", requestId⟩] } }

/-- Writes to the log of every response that tells of a failure of the service. -/
def tracing (span : LogSpan) (inner : Service σ τ) : Service σ τ := fun r s =>
  let h := inner r s
  match h.reaction with
  | .response a =>
    { h with progress := note h.progress ((failureNote a.status).map (·.within span)) }
  | _ => h

/-- All layers around the work, the outermost one first. -/
def layered (limits : Limits) (fresh : Uuid) (work : Work σ τ) : Service σ τ := fun r =>
  let requestId := requestIdOf r fresh
  let span := requestSpan r requestId
  (tracing span <| echoing requestId <| sharing <| fitting <| measuring <| recovering span <|
    limited limits.request span work) r

/-! ## What the layers do -/

/-- The status of the answer to work that has ended in some way. -/
def Reaction.status : Reaction → Nat
  | response a => a.status
  | panic _ => 500
  | silence => 408

/-- There is a response, of some status, and some rows have been recorded. -/
def Handling.Answers (h : Handling σ τ) (status : Nat) (rows : List MetricsRow) : Prop :=
  ∃ a, h.reaction = .response a ∧ a.status = status ∧ h.rows = rows

section Layers

variable {inner : Service σ τ} {r : Request} {s : Progress σ τ} {status : Nat}
  {rows : List MetricsRow}

/-- What is done about a response leaves it as it is counted, if it leaves its status. -/
theorem Handling.Answers.map {h : Handling σ τ} (hh : h.Answers status rows)
    {f : Response → Response} (hf : ∀ a, (f a).status = a.status) :
    { h with reaction := h.reaction.map f }.Answers status rows := by
  obtain ⟨a, hreaction, hstatus, hrows⟩ := hh
  refine ⟨f a, ?_, (hf a).trans hstatus, hrows⟩
  simp only [hreaction, Reaction.map]

theorem panicError_status (p : PanicPayload) : (domainErrorResponse (panicError p)).status = 500 :=
  rfl

/-- Work within a limit is answered for, even if it panics or does not end. -/
theorem answers_recovering (limit : Span) (span : LogSpan) (work : Work σ τ) (r : Request)
    (s : Progress σ τ) :
    (recovering span (limited limit span work) r s).Answers
      (attempt limit span work r s).1.status [] := by
  unfold recovering limited
  rcases attempt limit span work r s with ⟨a | p | _, s'⟩
  · exact ⟨a, rfl, rfl, rfl⟩
  · exact ⟨_, rfl, panicError_status p, rfl⟩
  · exact ⟨_, rfl, rfl, rfl⟩

theorem answers_measuring (h : (inner r s).Answers status rows) :
    (measuring inner r s).Answers status (rows ++ [⟨r.method, requestLabel r, status⟩]) := by
  obtain ⟨a, hreaction, rfl, rfl⟩ := h
  refine ⟨a, ?_, rfl, ?_⟩
  · simp only [measuring, hreaction]
  · simp only [measuring, hreaction]

theorem status_fitMethod (r : Request) (a : Response) : (fitMethod r a).status = a.status := by
  unfold fitMethod
  simp only
  split
  · split <;> split <;> rfl
  · split <;> rfl

theorem answers_fitting (h : (inner r s).Answers status rows) :
    (fitting inner r s).Answers status rows :=
  h.map (status_fitMethod r)

theorem answers_sharing (hmethod : r.method ≠ "OPTIONS") (h : (inner r s).Answers status rows) :
    (sharing inner r s).Answers status rows := by
  unfold sharing
  rw [if_neg hmethod]
  refine h.map fun a => ?_
  rw [(Response.withHeaders_kept _ _).1, (Response.withHeaders_kept _ _).1]

theorem answers_echoing (requestId : Bytes) (h : (inner r s).Answers status rows) :
    (echoing requestId inner r s).Answers status rows :=
  h.map fun _ => rfl

theorem answers_tracing (span : LogSpan) (h : (inner r s).Answers status rows) :
    (tracing span inner r s).Answers status rows := by
  obtain ⟨a, hreaction, hstatus, hrows⟩ := h
  refine ⟨a, ?_, hstatus, ?_⟩
  · simp only [tracing, hreaction]
  · simp only [tracing, hreaction, hrows]

end Layers

/-- Whatever the work is and however it ends, the request is answered and counted once, with the
    status that the client receives. -/
theorem answers_layered (limits : Limits) (fresh : Uuid) (work : Work σ τ) {r : Request}
    (hmethod : r.method ≠ "OPTIONS") (s : Progress σ τ) :
    let span := requestSpan r (requestIdOf r fresh)
    let status := (attempt limits.request span work r s).1.status
    (layered limits fresh work r s).Answers status [⟨r.method, requestLabel r, status⟩] := by
  intro span status
  apply answers_tracing
  apply answers_echoing
  apply answers_sharing hmethod
  apply answers_fitting
  exact answers_measuring (answers_recovering limits.request span work r s)

theorem status_preflight (r : Request) : (preflight r).status = 200 := by
  have hstatus := ((Response.empty 200).withHeaders_kept preflightHeaders).1
  unfold preflight
  cases Route.ofPath? r.target.path with
  | none => exact hstatus
  | some route => exact hstatus

/-- A question about what is allowed never gets to the work. -/
theorem layered_options (limits : Limits) (fresh : Uuid) (work : Work σ τ) {r : Request}
    (hmethod : r.method = "OPTIONS") (s : Progress σ τ) :
    let a := (preflight r).withHeaders shareHeaders
    let id : Header := ⟨"x-request-id", requestIdOf r fresh⟩
    layered limits fresh work r s = ⟨.response { a with headers := a.headers ++ [id] }, [], s⟩ := by
  have hstatus : ((preflight r).withHeaders shareHeaders).status = 200 :=
    ((preflight r).withHeaders_kept shareHeaders).1.trans (status_preflight r)
  simp only [layered, tracing, echoing, sharing, if_pos hmethod, Reaction.map, hstatus]
  rfl

/-! ## The server is made of its layers -/

/-- Around the handlers, the limit and the recovery from panics make the response. -/
theorem recovering_handlers (env : Environment σ τ) (deadlines : Deadlines) (limits : Limits)
    (span : LogSpan) (r : Request) (s : Progress σ τ) :
    recovering span (limited limits.request span (handlers env deadlines limits)) r s =
      ⟨.response (respond env deadlines limits span r s).1, [],
        (respond env deadlines limits span r s).2⟩ := by
  unfold recovering limited attempt respond handlers
  by_cases hlimit : limits.request = 0
  · simp only [if_pos hlimit]
  · simp only [if_neg hlimit]
    rcases ((handle deadlines limits r).inSpan span).run env (some limits.request) s with
      ⟨a | _ | _ | p, s'⟩ <;> rfl

/-- What the server does about a request is what its layers do around the handlers. -/
theorem layered_handlers (env : Environment σ τ) (deadlines : Deadlines) (limits : Limits)
    (fresh : Uuid) (r : Request) (s : Progress σ τ) :
    layered limits fresh (handlers env deadlines limits) r s =
      ⟨.response (serve env deadlines limits fresh r s).response,
        (serve env deadlines limits fresh r s).row.toList,
        (serve env deadlines limits fresh r s).progress⟩ := by
  by_cases hmethod : r.method = "OPTIONS"
  · simp only [layered, tracing, echoing, sharing, serve, if_pos hmethod, Reaction.map]
    rfl
  · simp only [layered, tracing, echoing, sharing, fitting, measuring, recovering_handlers, serve,
      if_neg hmethod, Reaction.map]
    rfl

end Http

end PayOnce
