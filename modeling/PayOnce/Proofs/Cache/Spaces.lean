import Mathlib.Logic.Function.Basic
import PayOnce.Cache.Memory
import PayOnce.Cache.Redis
/-!
Services that share a server. The keys of two namespaces meet only where one namespace, with the
mark of its keys after it, begins the other; services whose namespaces are apart in this sense do
not notice each other on the server, in whatever order their commands reach it.
-/

namespace PayOnce

open Text

/-! ## Where the keys of two namespaces meet -/

/-- What stands between the namespace and the key. -/
def keyMark : List Char :=
  ":idempotency:".toList

theorem toList_fullKey (space key : String) :
    (fullKey space key).toList = space.toList ++ keyMark ++ key.toList := by
  unfold fullKey keyMark
  rw [String.toList_append, String.toList_append]

/-- A namespace, with the mark of its keys after it, begins another and the colon after that. -/
def Nests (space space' : String) : Prop :=
  space.toList ++ keyMark <+: space'.toList ++ [':']

instance (space space' : String) : Decidable (Nests space space') :=
  inferInstanceAs (Decidable (_ <+: _))

/-- Two namespaces of which neither is the other or begins it. -/
structure Apart (space space' : String) : Prop where
  ne : space ≠ space'
  outer : ¬ Nests space space'
  inner : ¬ Nests space' space

theorem nests_iff (space space' : String) :
    Nests space space' ↔ ∃ t, space' ++ ":" = space ++ ":idempotency:" ++ t := by
  constructor
  · rintro ⟨t, ht⟩
    have ht' : (String.ofList t).toList = t := String.toList_ofList
    refine ⟨String.ofList t, String.toList_inj.1 ?_⟩
    rw [String.toList_append, String.toList_append, String.toList_append, ht']
    exact ht.symm
  · rintro ⟨t, ht⟩
    have hlists := congrArg String.toList ht
    rw [String.toList_append, String.toList_append, String.toList_append] at hlists
    exact ⟨t.toList, hlists.symm⟩

/-- A namespace that another begins has a colon in it. -/
theorem Nests.mem_colon {space space' : String} (h : Nests space space') : ':' ∈ space'.toList := by
  obtain ⟨t, ht⟩ := h
  have hlist : space.toList ++ ':' :: ("idempotency:".toList ++ t) = space'.toList ++ [':'] := by
    rw [← ht, List.append_assoc]
    rfl
  have hinit := congrArg List.dropLast hlist
  rw [List.dropLast_concat, List.dropLast_append_of_ne_nil (List.cons_ne_nil _ _),
    List.dropLast_cons_of_ne_nil (by simp)] at hinit
  rw [← hinit]
  simp

/-- The mark of a key has colons at its ends only. -/
theorem eq_of_getElem?_keyMark : ∀ i ≤ 12, keyMark[i]? = some ':' → i = 0 ∨ i = 12 := by
  decide

/-- A namespace and a colon that begin another and its mark are no longer than the other, or are all
    of the mark. -/
theorem length_le_of_colon_prefix {cs cs' : List Char} (h : cs' ++ [':'] <+: cs ++ keyMark) :
    cs'.length ≤ cs.length ∨ cs' ++ [':'] = cs ++ keyMark := by
  rcases Nat.lt_or_ge cs.length cs'.length with hlt | hge
  · have hmark : keyMark.length = 13 := rfl
    have hle := h.length_le
    simp only [List.length_append, List.length_singleton, hmark] at hle
    have hcolon : (cs ++ keyMark)[cs'.length]? = some ':' := by
      rw [List.prefix_iff_getElem?.1 h cs'.length (by simp)]
      simp
    rw [List.getElem?_append_right (Nat.le_of_lt hlt)] at hcolon
    rcases eq_of_getElem?_keyMark _ (by omega) hcolon with hzero | hlast
    · omega
    · exact .inr (h.eq_of_length (by simp only [List.length_append, List.length_singleton]; omega))
  · exact .inl hge

/-- Namespaces that share a key are equal, or one begins the other. -/
theorem eq_or_nests_of_fullKey_eq {space space' key key' : String}
    (h : fullKey space key = fullKey space' key') :
    space = space' ∨ Nests space space' ∨ Nests space' space := by
  have hmark (space key : String) : space.toList ++ keyMark <+: (fullKey space key).toList :=
    ⟨key.toList, (toList_fullKey space key).symm⟩
  have hcolon (space key : String) : space.toList ++ [':'] <+: (fullKey space key).toList := by
    refine List.IsPrefix.trans ?_ (hmark space key)
    exact (List.prefix_append_right_inj _).2 ⟨"idempotency:".toList, rfl⟩
  have hmark' := h ▸ hmark space' key'
  have hcolon' := h ▸ hcolon space' key'
  -- Of two beginnings of the key, one begins the other. Where neither mark ends within the other
  -- namespace, the namespaces are of one length.
  rcases List.prefix_or_prefix_of_prefix (hmark space key) hcolon' with hnests | hbelow
  · exact .inr (.inl hnests)
  rcases List.prefix_or_prefix_of_prefix hmark' (hcolon space key) with hnests | habove
  · exact .inr (.inr hnests)
  rcases length_le_of_colon_prefix hbelow with hle | heq
  · rcases length_le_of_colon_prefix habove with hge | heq
    · have hlists := List.prefix_of_prefix_length_le (hcolon space key) hcolon'
        (by simp only [List.length_append]; omega)
      have hlength : (space.toList ++ [':']).length = (space'.toList ++ [':']).length := by
        simp only [List.length_append]
        omega
      exact .inl (String.toList_inj.1 (List.append_cancel_right (hlists.eq_of_length hlength)))
    · exact .inr (.inr (heq.symm ▸ List.prefix_rfl : space'.toList ++ keyMark <+: _))
  · exact .inr (.inl (heq.symm ▸ List.prefix_rfl : space.toList ++ keyMark <+: _))

/-- A key of one namespace is a key of another that it begins, if it goes on like that one. -/
def Shares (space space' key key' : String) : Prop :=
  ∃ t, space' ++ ":" = space ++ ":idempotency:" ++ t ∧ key = t ++ "idempotency:" ++ key'

theorem Shares.fullKey_eq {space space' key key' : String} (h : Shares space space' key key') :
    fullKey space key = fullKey space' key' := by
  obtain ⟨t, hspace, rfl⟩ := h
  calc fullKey space (t ++ "idempotency:" ++ key')
      = space ++ ":idempotency:" ++ t ++ ("idempotency:" ++ key') := by
        simp only [fullKey, String.append_assoc]
    _ = space' ++ ":" ++ ("idempotency:" ++ key') := by rw [hspace]
    _ = fullKey space' key' := by
        have hmark : ":idempotency:" = ":" ++ "idempotency:" := rfl
        rw [fullKey, hmark]
        simp only [String.append_assoc]

theorem fullKey_injective {space key key' : String} (h : fullKey space key = fullKey space key') :
    key = key' := by
  have hlists := congrArg String.toList h
  rw [toList_fullKey, toList_fullKey] at hlists
  exact String.toList_inj.1 (List.append_cancel_left hlists)

theorem Nests.shares {space space' key key' : String} (h : Nests space space')
    (heq : fullKey space key = fullKey space' key') : Shares space space' key key' := by
  obtain ⟨t, ht⟩ := (nests_iff _ _).1 h
  have hshared : Shares space space' (t ++ "idempotency:" ++ key') key' := ⟨t, ht, rfl⟩
  exact ⟨t, ht, fullKey_injective (heq.trans hshared.fullKey_eq.symm)⟩

/-- Exactly these keys of two namespaces are one key on the server. -/
theorem fullKey_eq_iff (space space' key key' : String) :
    fullKey space key = fullKey space' key' ↔
      (space = space' ∧ key = key') ∨ Shares space space' key key' ∨
        Shares space' space key' key := by
  constructor
  · intro h
    rcases eq_or_nests_of_fullKey_eq h with rfl | hnests | hnests
    · exact .inl ⟨rfl, fullKey_injective h⟩
    · exact .inr (.inl (hnests.shares h))
    · exact .inr (.inr (hnests.shares h.symm))
  · rintro (⟨rfl, rfl⟩ | h | h)
    · rfl
    · exact h.fullKey_eq
    · exact h.fullKey_eq.symm

/-- No key is shared exactly if the namespaces are apart. -/
theorem apart_iff (space space' : String) :
    Apart space space' ↔ ∀ key key', fullKey space key ≠ fullKey space' key' := by
  constructor
  · intro h key key' heq
    rcases eq_or_nests_of_fullKey_eq heq with hsame | hnests | hnests
    · exact h.ne hsame
    · exact h.outer hnests
    · exact h.inner hnests
  · intro h
    refine ⟨?_, ?_, ?_⟩
    · rintro rfl
      exact h "" "" rfl
    · intro hnests
      obtain ⟨t, ht⟩ := (nests_iff _ _).1 hnests
      exact h _ "" (Shares.fullKey_eq ⟨t, ht, rfl⟩)
    · intro hnests
      obtain ⟨t, ht⟩ := (nests_iff _ _).1 hnests
      exact h "" _ (Shares.fullKey_eq ⟨t, ht, rfl⟩).symm

theorem apart_of_notMem_colon {space space' : String} (hne : space ≠ space')
    (h : ':' ∉ space.toList) (h' : ':' ∉ space'.toList) : Apart space space' :=
  ⟨hne, fun hnests => h' hnests.mem_colon, fun hnests => h hnests.mem_colon⟩

/-! ## A server for several services -/

/-- The key on the server that the command of a call is about. -/
def RedisCache.subject? (space : String) : CacheCall → Option String
  | .get key => some (fullKey space key)
  | .set key _ _ => some (fullKey space key)
  | .evict key => some (fullKey space key)
  | .ping => none

theorem RedisCache.command_of_subject? {space key : String} {call : CacheCall}
    (h : subject? space call = some key) :
    ∃ name args, command space call = name :: key :: args := by
  cases call <;> cases h <;> exact ⟨_, _, rfl⟩

theorem RedisCache.command_of_subject?_none {space : String} {call : CacheCall}
    (h : subject? space call = none) : command space call = ["PING"] := by
  cases call <;> first | rfl | cases h

theorem RedisCache.subject?_cases (space : String) (call : CacheCall) :
    subject? space call = none ∨ ∃ key, subject? space call = some (fullKey space key) := by
  cases call with
  | get key => exact .inr ⟨key, rfl⟩
  | set key value ttl => exact .inr ⟨key, rfl⟩
  | evict key => exact .inr ⟨key, rfl⟩
  | ping => exact .inl rfl

/-- A server that keeps something for each key, and carries out a command on an occasion: at a time,
    and with what befalls the connection. The commands of a cache concern one key, or none. -/
structure KeyServer (ω σ ε : Type) where
  serve : ω → RedisCommand → σ → RedisReply × σ
  entry : σ → String → ε
  /-- The reply, and the entry that is left, depend on the entry of the key alone. -/
  about_key : ∀ {on : ω} {space : String} {call : CacheCall} {key : String} {s s' : σ},
    RedisCache.subject? space call = some key → entry s key = entry s' key →
      (serve on (RedisCache.command space call) s).1 =
          (serve on (RedisCache.command space call) s').1 ∧
        entry (serve on (RedisCache.command space call) s).2 key =
          entry (serve on (RedisCache.command space call) s').2 key
  /-- The reply to a command that is about no key depends on no entry. -/
  about_none : ∀ {on : ω} {space : String} {call : CacheCall} {s s' : σ},
    RedisCache.subject? space call = none →
      (serve on (RedisCache.command space call) s).1 =
        (serve on (RedisCache.command space call) s').1
  /-- The entries of other keys stay. -/
  others : ∀ {on : ω} {space : String} {call : CacheCall} {key : String} {s : σ},
    RedisCache.subject? space call ≠ some key →
      entry (serve on (RedisCache.command space call) s).2 key = entry s key

/-- A call that the service of a namespace makes on an occasion. -/
structure Visit (ω : Type) where
  space : String
  on : ω
  call : CacheCall
deriving DecidableEq, Repr

namespace KeyServer

variable {ω σ ε : Type} (server : KeyServer ω σ ε)

/-- The reply to the command of a visit, and the server after it. -/
def visit (v : Visit ω) (s : σ) : RedisReply × σ :=
  server.serve v.on (RedisCache.command v.space v.call) s

/-- The replies to the visits of several services, one after another, and the server after them. -/
def run : List (Visit ω) → σ → List (Visit ω × RedisReply) × σ
  | [], s => ([], s)
  | v :: vs, s =>
    let (reply, s') := server.visit v s
    let (replies, s'') := run vs s'
    ((v, reply) :: replies, s'')

/-- Two states hold the same for the keys of a namespace. -/
def Agree (space : String) (s s' : σ) : Prop :=
  ∀ key, server.entry s (fullKey space key) = server.entry s' (fullKey space key)

variable {server} {space : String} {s s' : σ} {v : Visit ω} {vs : List (Visit ω)}

/-- A visit of the service itself goes the same way in states that agree on its keys. -/
theorem Agree.visit_own (h : server.Agree space s s') (hv : v.space = space) :
    (server.visit v s).1 = (server.visit v s').1 ∧
      server.Agree space (server.visit v s).2 (server.visit v s').2 := by
  subst hv
  have hothers {key : String}
      (hkey : RedisCache.subject? v.space v.call ≠ some (fullKey v.space key)) :
      server.entry (server.visit v s).2 (fullKey v.space key) =
        server.entry (server.visit v s').2 (fullKey v.space key) :=
    (server.others hkey).trans ((h key).trans (server.others hkey).symm)
  rcases RedisCache.subject?_cases v.space v.call with hsubject | ⟨key, hsubject⟩
  · exact ⟨server.about_none hsubject, fun key => hothers (by simp [hsubject])⟩
  · obtain ⟨hreply, hentry⟩ := server.about_key hsubject (h key)
    refine ⟨hreply, fun key' => ?_⟩
    by_cases hkey : RedisCache.subject? v.space v.call = some (fullKey v.space key')
    · have heq := Option.some.inj (hsubject.symm.trans hkey)
      exact heq ▸ hentry
    · exact hothers hkey

/-- A visit of another service leaves the entries of a namespace that is apart from its own. -/
theorem Agree.visit_other (h : server.Agree space s s') (hv : Apart space v.space) :
    server.Agree space (server.visit v s).2 s' := by
  intro key
  refine (server.others ?_).trans (h key)
  rcases RedisCache.subject?_cases v.space v.call with hsubject | ⟨key', hsubject⟩
  · simp [hsubject]
  · rw [hsubject]
    exact fun heq => (apart_iff _ _).1 hv key key' (Option.some.inj heq).symm

/-- In a run of several services, one that is apart from the others gets the replies that it gets in
    the run of its own visits, and its entries are those that this run leaves. -/
theorem Agree.run (h : server.Agree space s s')
    (hvs : ∀ v ∈ vs, v.space = space ∨ Apart space v.space) :
    (server.run vs s).1.filter (·.1.space = space) =
        (server.run (vs.filter (·.space = space)) s').1 ∧
      server.Agree space (server.run vs s).2 (server.run (vs.filter (·.space = space)) s').2 := by
  -- By induction on the visits: own ones are in both runs, others only in the first.
  induction vs generalizing s s' with
  | nil => exact ⟨rfl, h⟩
  | cons v vs ih =>
    have hvs' : ∀ v ∈ vs, v.space = space ∨ Apart space v.space :=
      fun v hv => hvs v (List.mem_cons_of_mem _ hv)
    by_cases hv : v.space = space
    · obtain ⟨hreply, hagree⟩ := h.visit_own hv
      obtain ⟨hrest, hagree'⟩ := ih hagree hvs'
      simp only [List.filter_cons, hv, decide_true, if_true, KeyServer.run, hrest, hreply]
      exact ⟨trivial, hagree'⟩
    · have hother := (hvs v List.mem_cons_self).resolve_left hv
      obtain ⟨hrest, hagree⟩ := ih (h.visit_other hother) hvs'
      simp only [List.filter_cons, hv, decide_false, KeyServer.run, hrest]
      exact ⟨rfl, hagree⟩

/-- Namespaces keep services apart, as long as none begins another and the mark of its keys. Two
    namespaces share a key exactly where one, with the mark, begins the other and the keys make up
    the difference; namespaces that are apart, such as different ones without colons, share none.
    Services on one server, each in a namespace that is apart from that of the service in question,
    change neither the replies that it gets nor the entries of its keys. -/
theorem namespaces_keep_apart (server : KeyServer ω σ ε) :
    (∀ space space' key key' : String, fullKey space key = fullKey space' key' ↔
        (space = space' ∧ key = key') ∨ Shares space space' key key' ∨
          Shares space' space key' key) ∧
      (∀ space space' : String,
        Apart space space' ↔ ∀ key key', fullKey space key ≠ fullKey space' key') ∧
      (∀ space space' : String, space ≠ space' → ':' ∉ space.toList → ':' ∉ space'.toList →
        Apart space space') ∧
      ∀ (space : String) (vs : List (Visit ω)) (s : σ),
        (∀ v ∈ vs, v.space = space ∨ Apart space v.space) →
          (server.run vs s).1.filter (·.1.space = space) =
              (server.run (vs.filter (·.space = space)) s).1 ∧
            ∀ key, server.entry (server.run vs s).2 (fullKey space key) =
              server.entry (server.run (vs.filter (·.space = space)) s).2 (fullKey space key) :=
  ⟨fullKey_eq_iff, apart_iff, fun _ _ => apart_of_notMem_colon,
    fun _ _ _ => Agree.run fun _ => rfl⟩

/-- The text that an entry holds at an instant. -/
def live? (now : Instant) (e : Option CacheEntry) : Option String :=
  (e.filter fun e => now.before e.expiresAt).map (·.value)

/-- The reply to a command about a key, by its name and further arguments, and the entry that it
    leaves. -/
def onEntry (now : Instant) (e : Option CacheEntry) :
    String → List String → RedisReply × Option CacheEntry
  | "GET", [] =>
    match live? now e with
    | some value => (.bulk (Utf8.encode value), e)
    | none => (.nil, e)
  | "SET", [value, "NX", "PX", millis] =>
    match live? now e, Decimal.unsigned (Nat.pow 2 63) millis.toList with
    | some _, _ => (.nil, e)
    | none, .ok n => (.simple "OK", some ⟨value, now.plus (.ofMillis n)⟩)
    | none, .error _ => (.error "ERR value is not an integer or out of range", e)
  | "DEL", [] => (.int (if (live? now e).isSome then 1 else 0), none)
  | _, _ => (.error "ERR unknown command", e)

/-- Carries out a command at an instant on texts that expire. -/
def carryOut (now : Instant) (command : RedisCommand) (kept : String → Option CacheEntry) :
    RedisReply × (String → Option CacheEntry) :=
  match command with
  | name :: key :: args =>
    let (reply, e) := onEntry now (kept key) name args
    (reply, Function.update kept key e)
  | ["PING"] => (.simple "PONG", kept)
  | _ => (.error "ERR unknown command", kept)

/-- A server whose connections hold and whose entries are texts that expire. -/
def ofTexts : KeyServer Instant (String → Option CacheEntry) (Option CacheEntry) where
  serve := carryOut
  entry kept key := kept key
  about_key := by
    intro on space call key kept kept' hsubject hentry
    obtain ⟨name, args, hcommand⟩ := RedisCache.command_of_subject? hsubject
    simp [hcommand, carryOut, hentry]
  about_none := by
    intro on space call kept kept' hsubject
    rw [RedisCache.command_of_subject?_none hsubject]
    rfl
  others := by
    intro on space call key kept hsubject
    rcases RedisCache.subject?_cases space call with hnone | ⟨key', hsome⟩
    · rw [RedisCache.command_of_subject?_none hnone]
      rfl
    · obtain ⟨name, args, hcommand⟩ := RedisCache.command_of_subject? hsome
      have hne : key ≠ fullKey space key' := fun heq => hsubject (heq ▸ hsome)
      simp only [hcommand, carryOut, Function.update_of_ne hne]

/-- A service keeps its entry while another gives up an entry of the same key. -/
theorem namespaces_keep_apart_sameKey :
    (ofTexts.run [⟨"payment-service", ⟨0, 0⟩, .set "K1" "mine" (.ofDays 1)⟩,
        ⟨"payments-eu", ⟨1, 0⟩, .set "K1" "theirs" (.ofDays 1)⟩,
        ⟨"payments-eu", ⟨2, 0⟩, .evict "K1"⟩,
        ⟨"payment-service", ⟨3, 0⟩, .get "K1"⟩] fun _ => none).1.filter
          (·.1.space = "payment-service") =
      [(⟨"payment-service", ⟨0, 0⟩, .set "K1" "mine" (.ofDays 1)⟩, .simple "OK"),
        (⟨"payment-service", ⟨3, 0⟩, .get "K1"⟩, .bulk (Utf8.encode "mine"))] := by
  have hapart : Apart "payment-service" "payments-eu" :=
    (namespaces_keep_apart ofTexts).2.2.1 _ _ (by decide) (by decide) (by decide)
  refine ((namespaces_keep_apart ofTexts).2.2.2 _ _ _ ?_).1.trans (by decide +kernel)
  simp [hapart]

/-- Namespaces and keys that are chosen freely can spell one key in two ways; a service is then told
    what another has put down. -/
theorem namespaces_meet :
    (¬ ∀ space space' key key' : String, fullKey space key = fullKey space' key' →
        space = space' ∧ key = key') ∧
      (ofTexts.run [⟨"a", ⟨0, 0⟩, .set "b:idempotency:c" "mine" (.ofDays 1)⟩,
          ⟨"a:idempotency:b", ⟨1, 0⟩, .get "c"⟩] fun _ => none).1 =
        [(⟨"a", ⟨0, 0⟩, .set "b:idempotency:c" "mine" (.ofDays 1)⟩, .simple "OK"),
          (⟨"a:idempotency:b", ⟨1, 0⟩, .get "c"⟩, .bulk (Utf8.encode "mine"))] := by
  constructor
  · intro hall
    have hsame := hall "a" "a:idempotency:b" "b:idempotency:c" "c" (by decide)
    exact absurd hsame.1 (by decide)
  · decide +kernel

end KeyServer

end PayOnce
