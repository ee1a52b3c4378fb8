import PayOnce.Service.Program
/-!
Running a program. Collaborators may answer anything after any delay, never answer, or panic; time
is counted on a timer of its own, on which only waiting takes time. An answer at the very limit of
a call is in time. A run may have a budget: it reaches only instants strictly before its end.
-/

namespace PayOnce

/-- What a panic carries. -/
inductive PanicPayload
  | text (s : String)
  | other
deriving DecidableEq, Repr

/-- How a call ends, if nobody cuts it off. -/
inductive Ending (ρ : Type)
  | answer (r : ρ)
  | never
  | panic (p : PanicPayload)

/-- What a collaborator makes of a call: its state while the call is underway, the time that the
    call takes, its state afterwards, and the end. -/
structure Conduct (σ ρ : Type) where
  underway : σ
  delay : Span
  settled : σ
  ending : Ending ρ

/-- A call that is answered at once. -/
def Conduct.immediate {σ ρ : Type} (before after : σ) (r : ρ) : Conduct σ ρ :=
  ⟨before, 0, after, .answer r⟩

/-- A call that is never answered. -/
def Conduct.silent {σ ρ : Type} (s : σ) : Conduct σ ρ :=
  ⟨s, 0, s, .never⟩

/-- The surroundings of a run: the two collaborators as state machines, the clock, and the ids that
    are handed out. -/
structure Environment (σ τ : Type) where
  store : σ → (c : StoreCall) → Conduct σ c.Reply
  cache : τ → (c : CacheCall) → Conduct τ c.Reply
  clock : Instant
  paymentId : Nat → Uuid
  correlationId : Uuid

/-- Something that a run did and that can be seen from outside. -/
inductive Event
  | store (c : StoreCall)
  | cache (c : CacheCall)
  | signal (s : Signal)
  | log (e : LogEntry)
deriving DecidableEq, Repr

/-- How far a run has come: the collaborators' states, the number of payment ids handed out, the
    time taken, and what was done, the latest first. -/
structure Progress (σ τ : Type) where
  store : σ
  cache : τ
  issued : Nat
  elapsed : Span
  events : List Event

/-- The progress of a run that is stopped at the end of its budget. -/
def Progress.stopAt {σ τ : Type} (s : Progress σ τ) (budget : Option Span) : Progress σ τ :=
  { s with elapsed := budget.getD s.elapsed }

/-- How a run ends. -/
inductive Outcome (α : Type)
  /-- With the value of the program. -/
  | finished (a : α)
  /-- At the end of its budget. -/
  | cutOff
  /-- Not at all. -/
  | hung
  /-- With a panic of a collaborator. -/
  | panicked (p : PanicPayload)
deriving DecidableEq, Repr

/-- What comes of a call at a caller who has a limit and a budget. -/
inductive Verdict (ρ : Type)
  | ended (time : Span) (r : ρ)
  | panicked (time : Span) (p : PanicPayload)
  | expired (time : Span)
  | cutOff
  | hung

/-- Does an instant lie within the budget? -/
def withinBudget (budget : Option Span) (t : Span) : Bool :=
  match budget with
  | none => true
  | some b => t < b

/-- What comes of a call that starts at an instant of the timer. -/
def Conduct.verdict {σ ρ : Type} (c : Conduct σ ρ) (limit budget : Option Span) (start : Span) :
    Verdict ρ :=
  let finish := start + c.delay
  let inTime := limit.all (c.delay ≤ ·)
  let late : Verdict ρ := match limit, budget with
    | some d, _ => if withinBudget budget (start + d) then .expired (start + d) else .cutOff
    | none, some _ => .cutOff
    -- Nobody cuts the call off.
    | none, none => .hung
  match c.ending with
  | .never => late
  | .answer r =>
    if inTime then if withinBudget budget finish then .ended finish r else .cutOff else late
  | .panic p =>
    if inTime then if withinBudget budget finish then .panicked finish p else .cutOff else late

namespace Program

variable {α σ τ : Type}

/-- Runs a program from some progress on. -/
def run (env : Environment σ τ) (budget : Option Span) :
    Program α → Progress σ τ → Outcome α × Progress σ τ
  | done a, s => (.finished a, s)
  | store c next, s =>
    let conduct := env.store s.store c
    let s := { s with store := conduct.underway, events := .store c :: s.events }
    match conduct.verdict none budget s.elapsed with
    | .ended t r => (next r).run env budget { s with store := conduct.settled, elapsed := t }
    | .panicked t p => (.panicked p, { s with store := conduct.settled, elapsed := t })
    -- Without a limit nothing expires.
    | .expired _ | .hung => (.hung, s)
    | .cutOff => (.cutOff, s.stopAt budget)
  | storeWithin limit c next, s =>
    let conduct := env.store s.store c
    let s := { s with store := conduct.underway, events := .store c :: s.events }
    match conduct.verdict (some limit) budget s.elapsed with
    | .ended t r =>
      (next (some r)).run env budget { s with store := conduct.settled, elapsed := t }
    | .panicked t p => (.panicked p, { s with store := conduct.settled, elapsed := t })
    | .expired t => (next none).run env budget { s with elapsed := t }
    | .hung => (.hung, s)
    | .cutOff => (.cutOff, s.stopAt budget)
  | cacheWithin limit c next, s =>
    let conduct := env.cache s.cache c
    let s := { s with cache := conduct.underway, events := .cache c :: s.events }
    match conduct.verdict (some limit) budget s.elapsed with
    | .ended t r =>
      (next (some r)).run env budget { s with cache := conduct.settled, elapsed := t }
    | .panicked t p => (.panicked p, { s with cache := conduct.settled, elapsed := t })
    | .expired t => (next none).run env budget { s with elapsed := t }
    | .hung => (.hung, s)
    | .cutOff => (.cutOff, s.stopAt budget)
  | ask .now next, s => (next env.clock).run env budget s
  | ask .paymentId next, s =>
    (next (env.paymentId s.issued)).run env budget { s with issued := s.issued + 1 }
  | ask .correlationId next, s => (next env.correlationId).run env budget s
  | ask .elapsed next, s => (next s.elapsed).run env budget s
  | signal g next, s => next.run env budget { s with events := .signal g :: s.events }
  | log e next, s => next.run env budget { s with events := .log e :: s.events }
  | wait d next, s =>
    let t := s.elapsed + d
    if withinBudget budget t then next.run env budget { s with elapsed := t }
    else (.cutOff, s.stopAt budget)

/-- Goes on after a run that has finished; any other end is the end. -/
def andThen {β : Type} (env : Environment σ τ) (budget : Option Span) (f : α → Program β) :
    Outcome α × Progress σ τ → Outcome β × Progress σ τ
  | (.finished a, s) => (f a).run env budget s
  | (.cutOff, s) => (.cutOff, s)
  | (.hung, s) => (.hung, s)
  | (.panicked p, s) => (.panicked p, s)

/-- A program that goes on with another one is run one after the other. -/
theorem run_bind {β : Type} (env : Environment σ τ) (budget : Option Span) (p : Program α)
    (f : α → Program β) (s : Progress σ τ) :
    (p.bind f).run env budget s = andThen env budget f (p.run env budget s) := by
  induction p generalizing s with
  | done a => rfl
  | store c next ih => simp only [bind, run]; split <;> simp_all [andThen]
  | storeWithin limit c next ih => simp only [bind, run]; split <;> simp_all [andThen]
  | cacheWithin limit c next ih => simp only [bind, run]; split <;> simp_all [andThen]
  | ask q next ih => cases q <;> simp only [bind, run, ih]
  | signal g next ih => simp only [bind, run, ih]
  | log e next ih => simp only [bind, run, ih]
  | wait d next ih => simp only [bind, run]; split <;> simp_all [andThen]

end Program

end PayOnce
