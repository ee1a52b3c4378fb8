import PayOnce.Log.Entry
import PayOnce.Service.Call
import PayOnce.Signal
/-!
Programs of the service. A program is a tree of requests to the world around it, each followed by
what is done with the answer. It has no state of its own and decides everything from the answers,
so what it does under arbitrary collaborators, faults and interleavings can be told from the tree.
-/

namespace PayOnce

/-- A question about the surroundings of a run. -/
inductive Query
  /-- What does the clock show? -/
  | now
  /-- An id that no payment has yet. -/
  | paymentId
  /-- An id for following a command through the logs. -/
  | correlationId
  /-- How long has this run taken so far? -/
  | elapsed
deriving DecidableEq, Repr

/-- The answer to a question. -/
abbrev Query.Answer : Query → Type
  | .now => Instant
  | .paymentId => Uuid
  | .correlationId => Uuid
  | .elapsed => Span

/-- A program that ends with a value of type `α`. -/
inductive Program (α : Type) : Type
  /-- The end. -/
  | done (a : α)
  /-- A call to the store that may take as long as it likes. -/
  | store (c : StoreCall) (next : c.Reply → Program α)
  /-- A call to the store that is dropped at its limit; the program goes on without an answer. -/
  | storeWithin (limit : Span) (c : StoreCall) (next : Option c.Reply → Program α)
  /-- A call to the cache that is dropped at its limit. -/
  | cacheWithin (limit : Span) (c : CacheCall) (next : Option c.Reply → Program α)
  /-- A question about the surroundings. -/
  | ask (q : Query) (next : q.Answer → Program α)
  /-- A signal for the operators. -/
  | signal (s : Signal) (next : Program α)
  /-- An entry for the log. -/
  | log (e : LogEntry) (next : Program α)
  /-- Time that passes. -/
  | wait (d : Span) (next : Program α)

namespace Program

variable {α β : Type}

/-- Goes on with another program. -/
def bind : Program α → (α → Program β) → Program β
  | done a, f => f a
  | store c next, f => store c fun r => (next r).bind f
  | storeWithin limit c next, f => storeWithin limit c fun r => (next r).bind f
  | cacheWithin limit c next, f => cacheWithin limit c fun r => (next r).bind f
  | ask q next, f => ask q fun a => (next a).bind f
  | signal s next, f => signal s (next.bind f)
  | log e next, f => log e (next.bind f)
  | wait d next, f => wait d (next.bind f)

theorem bind_done (p : Program α) : p.bind done = p := by
  induction p <;> simp_all [bind]

theorem bind_assoc {γ : Type} (p : Program α) (f : α → Program β) (g : β → Program γ) :
    (p.bind f).bind g = p.bind fun a => (f a).bind g := by
  induction p <;> simp_all [bind]

instance : Monad Program where
  pure := done
  bind := bind

instance : LawfulMonad Program :=
  LawfulMonad.mk' Program bind_done (fun _ _ => rfl) bind_assoc

/-- Puts the log entries of a program into a stretch of work. -/
def inSpan (span : LogSpan) : Program α → Program α
  | done a => done a
  | store c next => store c fun r => (next r).inSpan span
  | storeWithin limit c next => storeWithin limit c fun r => (next r).inSpan span
  | cacheWithin limit c next => cacheWithin limit c fun r => (next r).inSpan span
  | ask q next => ask q fun a => (next a).inSpan span
  | signal s next => signal s (next.inSpan span)
  | log e next => log (e.within span) (next.inSpan span)
  | wait d next => wait d (next.inSpan span)

theorem inSpan_bind (span : LogSpan) (p : Program α) (f : α → Program β) :
    (p.bind f).inSpan span = (p.inSpan span).bind fun a => (f a).inSpan span := by
  induction p <;> simp_all [bind, inSpan]

/-- Calls the store. -/
def callStore (c : StoreCall) : Program c.Reply :=
  store c done

/-- Calls the store and waits for its answer no longer than a limit. -/
def callStoreWithin (limit : Span) (c : StoreCall) : Program (Option c.Reply) :=
  storeWithin limit c done

/-- Calls the cache and waits for its answer no longer than a limit. -/
def callCacheWithin (limit : Span) (c : CacheCall) : Program (Option c.Reply) :=
  cacheWithin limit c done

/-- Asks a question. -/
def query (q : Query) : Program q.Answer :=
  ask q done

/-- Gives a signal. -/
def emit (s : Signal) : Program Unit :=
  signal s (done ())

/-- Writes to the log on behalf of a part of the program. -/
def report (part : String) (level : Level) (message : String) (fields : Fields) : Program Unit :=
  log (.make part level message fields) (done ())

end Program

end PayOnce
