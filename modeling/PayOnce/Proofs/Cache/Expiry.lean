import PayOnce.Proofs.Cache.Memory
import PayOnce.Proofs.Time.Order
import Mathlib.Logic.Function.Basic
/-!
The cache in memory beside a map that never forgets. The map keeps entries that have expired and
takes no notice of them; the cache removes them when it comes across them. As long as the clock
does not go back, nobody can tell the two apart, since what is live under a key is the same in both.
-/

namespace PayOnce

/-! ## Steps -/

/-- What is done with a cache in memory, or with its clock. -/
inductive CacheStep
  /-- A call is made. -/
  | call (c : CacheCall)
  /-- A value is put in for a day, whatever is there. -/
  | insert (key value : String)
  /-- The live value of a key is looked at. -/
  | peek (key : String)
  /-- Time passes. -/
  | advance (d : Span)
deriving DecidableEq, Repr

namespace CacheStep

/-- What is told of a step. -/
abbrev Reply : CacheStep → Type
  | call c => c.Reply
  | insert .. => Unit
  | peek _ => Option String
  | advance _ => Unit

/-- What the clock shows after a step. -/
def clock (now : Instant) : CacheStep → Instant
  | advance d => now.plus d
  | _ => now

/-- The expiry that a step may write. -/
def expiry? (now : Instant) : CacheStep → Option Instant
  | call (.set _ _ ttl) => some (now.plus ttl)
  | insert .. => some (now.plus (.ofDays 1))
  | _ => none

/-- The key that a step is about, if it is about one. -/
def key? : CacheStep → Option String
  | call (.get key) | call (.set key _ _) | call (.evict key) | insert key _ | peek key => some key
  | call .ping | advance _ => none

/-- Does a step matter to those who only know one key? -/
def concerns (key : String) (s : CacheStep) : Bool :=
  s.key?.all (· == key)

/-- Is it a read, which may remove what has expired? -/
def isGet : CacheStep → Bool
  | call (.get _) => true
  | _ => false

end CacheStep

/-- Steps that can be taken one after the other: every instant that the clock shows or that an entry
    expires at can be represented. -/
def Feasible : Instant → List CacheStep → Prop
  | now, [] => now.Representable
  | now, s :: steps =>
    now.Representable ∧ (∀ t ∈ s.expiry? now, t.Representable) ∧ Feasible (s.clock now) steps

theorem Feasible.now {now : Instant} {steps : List CacheStep} (h : Feasible now steps) :
    now.Representable := by
  cases steps with
  | nil => exact h
  | cons s steps => exact h.1

instance : (now : Instant) → (steps : List CacheStep) → Decidable (Feasible now steps)
  | now, [] => inferInstanceAs (Decidable now.Representable)
  | now, s :: steps =>
    have := instDecidableFeasible (s.clock now) steps
    inferInstanceAs (Decidable (_ ∧ _ ∧ _))

/-- The answers to steps that are taken one after the other. -/
def answers {M : Type} (step : M → Instant → (s : CacheStep) → s.Reply × M) :
    M → Instant → List CacheStep → List (Σ s : CacheStep, s.Reply)
  | _, _, [] => []
  | m, now, s :: steps =>
    ⟨s, (step m now s).1⟩ :: answers step (step m now s).2 (s.clock now) steps

/-! ## The cache and the map -/

/-- An entry that is there, unless it has expired. -/
def CacheEntry.liveAt (now : Instant) (e : Option CacheEntry) : Option CacheEntry :=
  e.filter fun e => now.before e.expiresAt

/-- A map that never forgets an entry for having expired. -/
abbrev EntryMap := String → Option CacheEntry

namespace EntryMap

/-- The entry of a key, strictly before its expiry. -/
def live? (m : EntryMap) (now : Instant) (key : String) : Option CacheEntry :=
  CacheEntry.liveAt now (m key)

/-- The value of a key, strictly before its expiry. -/
def value? (m : EntryMap) (now : Instant) (key : String) : Option String :=
  (live? m now key).map (·.value)

/-- Takes a step. A value is set only where there is none that is live. -/
def step (m : EntryMap) (now : Instant) : (s : CacheStep) → s.Reply × EntryMap
  | .call (.get key) => (.ok (value? m now key), m)
  | .call (.set key value ttl) =>
    (.ok (), if (live? m now key).isSome then m
      else Function.update m key (some ⟨value, now.plus ttl⟩))
  | .call (.evict key) => (.ok (), Function.update m key none)
  | .call .ping => (.ok (), m)
  | .insert key value => ((), Function.update m key (some ⟨value, now.plus (.ofDays 1)⟩))
  | .peek key => (value? m now key, m)
  | .advance _ => ((), m)

end EntryMap

namespace MemoryCache

/-- The entry of a key, strictly before its expiry. -/
def live? (c : MemoryCache) (now : Instant) (key : String) : Option CacheEntry :=
  CacheEntry.liveAt now (c.find? key)

/-- Takes a step. -/
def step (c : MemoryCache) (now : Instant) : (s : CacheStep) → s.Reply × MemoryCache
  | .call call => c.handle now call
  | .insert key value => ((), c.insert now key value)
  | .peek key => (c.peek now key, c)
  | .advance _ => ((), c)

end MemoryCache

/-! ## What is live -/

/-- What is live later is live now. -/
theorem CacheEntry.liveAt_liveAt {now later : Instant} (h : later.before now = false)
    (e : Option CacheEntry) : liveAt later (liveAt now e) = liveAt later e := by
  cases e with
  | none => rfl
  | some e =>
    cases hlive : now.before e.expiresAt with
    | true => simp [liveAt, Option.filter, hlive]
    | false =>
      -- It has not come back to life.
      have hlater : later.before e.expiresAt = false := by
        by_contra hne
        rw [Bool.not_eq_false] at hne
        rw [Instant.before_of_before h hne] at hlive
        cases hlive
      simp [liveAt, Option.filter, hlive, hlater]

namespace MemoryCache

variable {c : MemoryCache} {now : Instant} {key : String}

theorem peek_eq (c : MemoryCache) (now : Instant) (key : String) :
    c.peek now key = (c.live? now key).map (·.value) := by
  unfold peek live? CacheEntry.liveAt
  cases c.find? key with
  | none => rfl
  | some e => cases hlive : now.before e.expiresAt <;> simp [Option.filter, hlive]

theorem live?_without (c : MemoryCache) (now : Instant) (key key' : String) :
    live? { c with entries := c.without key } now key' =
      if key' = key then none else c.live? now key' := by
  unfold live?
  split
  · next heq =>
    rw [heq, find?_without_self]
    rfl
  · next hne => rw [find?_without_of_ne c (Ne.symm hne)]

theorem live?_put (c : MemoryCache) (now : Instant) (key : String) (e : CacheEntry)
    (key' : String) :
    (c.put key e).live? now key' =
      if key' = key then CacheEntry.liveAt now (some e) else c.live? now key' := by
  unfold live?
  split
  · next heq => rw [heq, find?_put_self]
  · next hne => rw [find?_put_of_ne c (Ne.symm hne)]

/-- A read tells the live value, and nothing that is live is lost by it. -/
theorem get_live (c : MemoryCache) (now : Instant) (key : String) :
    (c.get now key).1 = (c.live? now key).map (·.value) ∧
      ∀ key', (c.get now key).2.live? now key' = c.live? now key' := by
  rcases c.get_cases now key with ⟨hfind, hget⟩ | ⟨e, hfind, hlive, hget⟩ | ⟨e, hfind, hlive, hget⟩
  · rw [hget]
    exact ⟨by simp [live?, CacheEntry.liveAt, hfind], fun _ => rfl⟩
  · have hnone : c.live? now key = none := by simp [live?, CacheEntry.liveAt, hfind, hlive]
    rw [hget, hnone]
    refine ⟨rfl, ?_⟩
    intro key'
    rw [live?_without]
    split
    · next heq => rw [heq, hnone]
    · rfl
  · rw [hget]
    exact ⟨by simp [live?, CacheEntry.liveAt, hfind, Option.filter, hlive], fun _ => rfl⟩

/-- A set with a time to live that is not too long writes where nothing is live. -/
theorem set_eq (c : MemoryCache) (now : Instant) (key value : String) {ttl : Span}
    (httl : ttl ≤ longestTtl) :
    c.set now key value ttl =
      (.ok (), if (c.live? now key).isSome then c else c.put key ⟨value, now.plus ttl⟩) := by
  have hpeek : (c.peek now key).isSome = (c.live? now key).isSome := by
    rw [peek_eq, Option.isSome_map]
  unfold set
  rw [if_neg (Nat.not_lt.2 httl), hpeek]
  split <;> rfl

/-- A time to live after which an instant can still be represented is not too long. -/
theorem le_longestTtl (hnow : now.Representable) {ttl : Span}
    (hplus : (now.plus ttl).Representable) : ttl ≤ longestTtl := by
  have hshort : ttl < 20000000000000 * 1000000000 :=
    (Nat.div_lt_iff_lt_mul (by decide)).1 (hnow.seconds_lt hplus)
  exact Nat.le_trans (Nat.le_of_lt hshort) (by decide)

/-! ## Nobody can tell them apart -/

/-- What is live in the cache is live in the map. -/
def Mirrored (now : Instant) (c : MemoryCache) (m : EntryMap) : Prop :=
  ∀ key, c.live? now key = EntryMap.live? m now key

variable {m : EntryMap}

/-- Time takes life from the same entries in both. -/
theorem Mirrored.later (h : Mirrored now c m) {later : Instant}
    (hlater : later.before now = false) : Mirrored later c m := by
  intro key
  unfold live? EntryMap.live?
  rw [← CacheEntry.liveAt_liveAt hlater, ← CacheEntry.liveAt_liveAt hlater (m key)]
  exact congrArg _ (h key)

theorem Mirrored.put (h : Mirrored now c m) (key : String) (e : CacheEntry) :
    Mirrored now (c.put key e) (Function.update m key (some e)) := by
  intro key'
  rw [live?_put, EntryMap.live?, Function.update_apply]
  split
  · rfl
  · exact h key'

theorem Mirrored.without (h : Mirrored now c m) (key : String) :
    Mirrored now { c with entries := c.without key } (Function.update m key none) := by
  intro key'
  rw [live?_without, EntryMap.live?, Function.update_apply]
  split
  · rfl
  · exact h key'

/-- A step is answered alike by the cache and the map, and leaves the same entries live. -/
theorem Mirrored.step (h : Mirrored now c m) (hnow : now.Representable) {s : CacheStep}
    (hexpiry : ∀ t ∈ s.expiry? now, t.Representable) :
    (c.step now s).1 = (EntryMap.step m now s).1 ∧
      Mirrored (s.clock now) (c.step now s).2 (EntryMap.step m now s).2 := by
  have hcounted : Mirrored now c.counted m := h
  have hvalue (key : String) : (c.live? now key).map (·.value) = EntryMap.value? m now key :=
    congrArg _ (h key)
  cases s with
  | call call =>
    cases call with
    | get key =>
      obtain ⟨hreply, hlive⟩ := c.counted.get_live now key
      refine ⟨congrArg Except.ok (hreply.trans (hvalue key)), ?_⟩
      intro key'
      exact (hlive key').trans (h key')
    | set key value ttl =>
      have hset := c.counted.set_eq now key value (le_longestTtl hnow (hexpiry _ rfl))
      have hsome : (c.counted.live? now key).isSome = (EntryMap.live? m now key).isSome :=
        congrArg _ (h key)
      simp only [MemoryCache.step, handle, EntryMap.step, CacheStep.clock, hset, hsome, true_and]
      split
      · exact hcounted
      · exact hcounted.put key _
    | evict key => exact ⟨rfl, hcounted.without key⟩
    | ping => exact ⟨rfl, h⟩
  | insert key value => exact ⟨rfl, h.put key _⟩
  | peek key => exact ⟨(c.peek_eq now key).trans (hvalue key), h⟩
  | advance d => exact ⟨rfl, h.later ((Instant.plus_later _ d).2 hnow.nanos)⟩

/-- Steps are answered alike, one after the other. -/
theorem Mirrored.answers {steps : List CacheStep} (h : Mirrored now c m)
    (hsteps : Feasible now steps) :
    answers MemoryCache.step c now steps = answers EntryMap.step m now steps := by
  induction steps generalizing c m now with
  | nil => rfl
  | cons s steps ih =>
    obtain ⟨hnow, hexpiry, hsteps⟩ := hsteps
    obtain ⟨hreply, hnext⟩ := h.step hnow hexpiry
    simp only [PayOnce.answers, hreply, ih hnext hsteps]

end MemoryCache

/-! ## Steps that are left out -/

/-- Steps can be left out as long as they do not move the clock. -/
theorem Feasible.filter {p : CacheStep → Bool} (hp : ∀ s now, p s = false → s.clock now = now)
    {now : Instant} {steps : List CacheStep} (h : Feasible now steps) :
    Feasible now (steps.filter p) := by
  induction steps generalizing now with
  | nil => exact h
  | cons s steps ih =>
    obtain ⟨hnow, hexpiry, hsteps⟩ := h
    rw [List.filter_cons]
    split
    · exact ⟨hnow, hexpiry, ih hsteps⟩
    · next hs =>
      rw [hp s now (Bool.not_eq_true _ ▸ hs)] at hsteps
      exact ih hsteps

namespace CacheStep

theorem clock_of_not_concerns {key : String} {s : CacheStep} (h : s.concerns key = false)
    (now : Instant) : s.clock now = now := by
  cases s with
  | advance d => cases h
  | _ => rfl

theorem clock_of_isGet {s : CacheStep} (h : s.isGet = true) (now : Instant) :
    s.clock now = now := by
  cases s with
  | advance d => cases h
  | _ => rfl

end CacheStep

namespace EntryMap

/-- A step does nothing under keys that it is not about. -/
theorem step_elsewhere (m : EntryMap) (now : Instant) {key : String} {s : CacheStep}
    (h : s.concerns key = false) : (step m now s).2 key = m key := by
  have hne {key' : String} (hkey : s.key? = some key') : key ≠ key' := by
    rintro rfl
    simp [CacheStep.concerns, hkey] at h
  cases s with
  | call call =>
    cases call with
    | get key' => rfl
    | set key' value ttl =>
      simp only [step]
      split
      · rfl
      · exact Function.update_of_ne (hne rfl) _ _
    | evict key' => exact Function.update_of_ne (hne rfl) _ _
    | ping => rfl
  | insert key' value => exact Function.update_of_ne (hne rfl) _ _
  | peek key' => rfl
  | advance d => rfl

/-- What a step tells and does under a key depends on the entry of that key only. -/
theorem step_congr {m m' : EntryMap} (now : Instant) {key : String} {s : CacheStep}
    (hs : s.concerns key = true) (h : m key = m' key) :
    (step m now s).1 = (step m' now s).1 ∧ (step m now s).2 key = (step m' now s).2 key := by
  have heq {key' : String} (hkey : s.key? = some key') : key' = key := by
    simpa [CacheStep.concerns, hkey] using hs
  have hlive : live? m now key = live? m' now key := congrArg _ h
  have hvalue : value? m now key = value? m' now key := congrArg _ hlive
  cases s with
  | call call =>
    cases call with
    | get key' =>
      obtain rfl := heq rfl
      exact ⟨congrArg Except.ok hvalue, h⟩
    | set key' value ttl =>
      obtain rfl := heq rfl
      refine ⟨rfl, ?_⟩
      simp only [step, hlive]
      split
      · exact h
      · rw [Function.update_self, Function.update_self]
    | evict key' =>
      obtain rfl := heq rfl
      exact ⟨rfl, by simp only [step, Function.update_self]⟩
    | ping => exact ⟨rfl, h⟩
  | insert key' value =>
    obtain rfl := heq rfl
    exact ⟨rfl, by simp only [step, Function.update_self]⟩
  | peek key' =>
    obtain rfl := heq rfl
    exact ⟨hvalue, h⟩
  | advance d => exact ⟨rfl, h⟩

/-- Those who only know one key see the same with and without the steps about other keys. -/
theorem answers_concerning {m m' : EntryMap} (now : Instant) {key : String} (h : m key = m' key)
    (steps : List CacheStep) :
    (answers step m now steps).filter (·.1.concerns key) =
      answers step m' now (steps.filter (·.concerns key)) := by
  induction steps generalizing m m' now with
  | nil => rfl
  | cons s steps ih =>
    rw [answers, List.filter_cons, List.filter_cons]
    cases hs : s.concerns key with
    | true =>
      obtain ⟨hreply, hnext⟩ := step_congr now hs h
      simp only [if_true, answers, hreply, ih _ hnext]
    | false =>
      rw [CacheStep.clock_of_not_concerns hs]
      simpa using ih now ((step_elsewhere m now hs).trans h)

theorem step_get (m : EntryMap) (now : Instant) {s : CacheStep} (h : s.isGet = true) :
    (step m now s).2 = m := by
  cases s with
  | call call =>
    cases call with
    | get key => rfl
    | _ => cases h
  | _ => cases h

/-- Everything else is answered the same with and without reads. -/
theorem answers_without_gets (m : EntryMap) (now : Instant) (steps : List CacheStep) :
    (answers step m now steps).filter (!·.1.isGet) =
      answers step m now (steps.filter (!·.isGet)) := by
  induction steps generalizing m now with
  | nil => rfl
  | cons s steps ih =>
    rw [answers, List.filter_cons, List.filter_cons]
    cases hs : s.isGet with
    | true => simpa [step_get m now hs, CacheStep.clock_of_isGet hs] using ih m now
    | false => simp [answers, ih]

end EntryMap

namespace MemoryCache

/-- The first value of a key stays until it expires, to the instant. The cache answers every
    sequence of steps as the map does that keeps what it was given first, shows it strictly before
    its expiry, and forgets nothing. So it makes no difference to other answers whether a read has
    removed what had expired; those who only know one key see nothing of what is done under other
    keys; and where a value is live, another set changes neither it nor its expiry. -/
theorem first_writer_wins (c : MemoryCache) {now : Instant} {steps : List CacheStep}
    (h : Feasible now steps) :
    answers step c now steps = answers EntryMap.step c.find? now steps ∧
    (answers step c now steps).filter (!·.1.isGet) =
      answers step c now (steps.filter (!·.isGet)) ∧
    (∀ key, (answers step c now steps).filter (·.1.concerns key) =
      answers step c now (steps.filter (·.concerns key))) ∧
    ∀ key value ttl, (now.plus ttl).Representable → (c.live? now key).isSome = true →
      let after := c.step now (.call (.set key value ttl))
      after.1 = .ok () ∧ ∀ key', after.2.find? key' = c.find? key' := by
  have hmirrored : Mirrored now c c.find? := fun _ => rfl
  refine ⟨hmirrored.answers h, ?_, ?_, ?_⟩
  · have hgets := h.filter (p := (!·.isGet)) fun s now hs =>
      CacheStep.clock_of_isGet (by simpa using hs) now
    rw [hmirrored.answers h, hmirrored.answers hgets]
    exact EntryMap.answers_without_gets _ now steps
  · intro key
    have hothers := h.filter (p := (·.concerns key)) fun s now hs =>
      CacheStep.clock_of_not_concerns hs now
    rw [hmirrored.answers h, hmirrored.answers hothers]
    exact EntryMap.answers_concerning now rfl steps
  · intro key value ttl hplus hlive
    have hnow := h.now
    have hset := c.counted.set_eq now key value (le_longestTtl hnow hplus)
    have hlive : (c.counted.live? now key).isSome = true := hlive
    rw [if_pos hlive] at hset
    refine ⟨congrArg Prod.fst hset, ?_⟩
    intro key'
    calc (c.step now (.call (.set key value ttl))).2.find? key'
      _ = c.counted.find? key' := congrArg (find? · key') (congrArg Prod.snd hset)
      _ = c.find? key' := rfl

/-- A value is there until the very instant of its expiry, which the read at that instant finds
    and removes; a second set and a step under another key have changed nothing. Then the key is
    free for another value, which is in its turn overwritten. -/
theorem first_writer_wins_toTheInstant :
    let told : List (Σ s : CacheStep, s.Reply) :=
      [⟨.call (.set "a" "first" 500), .ok ()⟩, ⟨.call (.set "a" "second" 900), .ok ()⟩,
        ⟨.call (.evict "b"), .ok ()⟩, ⟨.advance 499, ()⟩, ⟨.peek "a", some "first"⟩,
        ⟨.advance 1, ()⟩, ⟨.peek "a", none⟩, ⟨.call (.get "a"), .ok none⟩,
        ⟨.call (.set "a" "third" 0), .ok ()⟩, ⟨.peek "a", none⟩, ⟨.insert "a" "fourth", ()⟩,
        ⟨.call (.get "a"), .ok (some "fourth")⟩]
    answers step {} ⟨1483228799, 1999999700⟩ (told.map (·.1)) = told := by
  intro told
  have hfeasible : Feasible ⟨1483228799, 1999999700⟩ (told.map (·.1)) := by decide +kernel
  exact (first_writer_wins {} hfeasible).1

end MemoryCache

end PayOnce
