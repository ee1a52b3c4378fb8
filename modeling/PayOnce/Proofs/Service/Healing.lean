import PayOnce.Cache.Redis
import PayOnce.Proofs.Service.Gate
import PayOnce.Proofs.Text.Utf8
/-!
Initiations over a cache on a server. Whatever bytes the server holds for a key, one initiation
brings them in order: a receipt is the answer and nothing else is done, anything else is removed
before the store is asked, and in the end the receipt that is answered has been offered to the
server, whose replies to all of this do not matter.
-/

namespace PayOnce

open Text

/-- The replies that a server has for the commands of an initiation. -/
structure RedisScript where
  get : RedisReply
  set : RedisReply
  del : RedisReply

/-- The reply to the command of a call. -/
def RedisScript.reply (script : RedisScript) : CacheCall → RedisReply
  | .get _ => script.get
  | .set .. => script.set
  | .evict _ => script.del
  | .ping => .simple "PONG"

/-- A store in memory beside a cache on a server with a script. The state of the cache are the
    commands that the server has been sent. -/
def besideRedis (space : String) (script : RedisScript) (clock : Instant) (paymentId : Nat → Uuid)
    (correlationId : Uuid) : Environment MemoryStore (List RedisCommand) where
  store s c := .immediate s (s.handle c).2 (s.handle c).1
  cache sent c := .immediate sent (sent ++ [RedisCache.command space c])
    (RedisCache.read c (script.reply c))
  clock := clock
  paymentId := paymentId
  correlationId := correlationId

/-- The server holds bytes that are the text of a receipt. -/
def RedisReply.Holds (reply : RedisReply) (receipt : Receipt) : Prop :=
  ∃ text, reply = .bulk (Utf8.encode text) ∧ Receipt.decode (Json.glyphsOf text) = .ok receipt

theorem RedisReply.Holds.unique {reply : RedisReply} {receipt receipt' : Receipt}
    (h : reply.Holds receipt) (h' : reply.Holds receipt') : receipt = receipt' := by
  obtain ⟨text, rfl, hreceipt⟩ := h
  obtain ⟨text', hreply, hreceipt'⟩ := h'
  -- Bytes are the bytes of one text only.
  have htext := (Utf8.decode_eq_ok_iff _ text').2 (RedisReply.bulk.inj hreply)
  cases ((Utf8.decode_eq_ok_iff _ text).2 rfl).symm.trans htext
  exact Except.ok.inj (hreceipt.symm.trans hreceipt')

/-- What is made of the reply to the first command: nothing where there is nothing, a receipt where
    it is held, and no use of any other bytes. -/
theorem RedisReply.reading_cases {reply : RedisReply}
    (h : reply = .nil ∨ ∃ bytes, reply = .bulk bytes) :
    (reply = .nil ∧ Initiation.Reading.of (some (RedisCache.readValue reply)) = .nothing) ∨
      (∃ receipt, reply.Holds receipt ∧
        Initiation.Reading.of (some (RedisCache.readValue reply)) = .receipt receipt) ∨
      (reply ≠ .nil ∧ (∀ receipt, ¬ reply.Holds receipt) ∧
        Initiation.Reading.of (some (RedisCache.readValue reply)) = .spoiled) := by
  obtain rfl | ⟨bytes, rfl⟩ := h
  · exact .inl ⟨rfl, rfl⟩
  right
  simp only [RedisCache.readValue]
  cases hbytes : Utf8.decode bytes with
  | ok text =>
    cases hdecode : Receipt.decode (Json.glyphsOf text) with
    | ok receipt =>
      refine .inl ⟨receipt, ⟨text, ?_, hdecode⟩, ?_⟩
      · rw [(Utf8.decode_eq_ok_iff bytes text).1 hbytes]
      · simp only [Initiation.Reading.of, hdecode]
    | error fault =>
      refine .inr ⟨RedisReply.noConfusion, ?_, ?_⟩
      · rintro receipt ⟨text', hreply, hreceipt⟩
        cases hreply
        cases hbytes.symm.trans ((Utf8.decode_eq_ok_iff _ text').2 rfl)
        cases hdecode.symm.trans hreceipt
      · simp only [Initiation.Reading.of, hdecode]
  | error fault =>
    refine .inr ⟨RedisReply.noConfusion, ?_, rfl⟩
    rintro receipt ⟨text, hreply, -⟩
    cases hreply
    cases hbytes.symm.trans ((Utf8.decode_eq_ok_iff _ text).2 rfl)

/-- A receipt is written only where there is nothing, and for a day. -/
theorem command_keep (space key text : String) :
    RedisCache.command space (.set key text receiptTtl) =
      ["SET", fullKey space key, text, "NX", "PX", "86400000"] := by
  have hday : Decimal.text (min receiptTtl.millis RedisCache.mostMillis) = "86400000" := by
    decide +kernel
  simp only [RedisCache.command, hday]

/-- The receipt of a fresh payment, unless another payment holds its key already: then the receipt
    of that one. -/
def MemoryStore.receiptFor (s : MemoryStore) (fresh : Payment) : Receipt :=
  match s.findKey? fresh.facts.idempotencyKey with
  | some stored => .ofPayment (.ofFacts stored)
  | none => .ofPayment fresh

namespace Initiation

/-! ## From the store to the server -/

/-- What is done between the first look into the cache and the last word to it: the store is asked
    for the key, and nobody says that the cache is degraded or calls it. -/
structure Undisturbed (key : String) (es : List Exchange) : Prop where
  first : ∃ r, es.head? = some (.store (.findByKey key) r)
  cache : ∀ c r, .cache c r ∉ es
  signals : .cacheDegraded ∉ signals es

theorem Undisturbed.lookup (key : String) (r : Option (Except DomainError (Option Payment))) :
    Undisturbed key [.store (.findByKey key) r] :=
  ⟨⟨r, rfl⟩, by simp, nofun⟩

theorem Undisturbed.concat {key : String} {es : List Exchange} (h : Undisturbed key es)
    {x : Exchange} (hcache : ∀ c r, x ≠ .cache c r) (hsignal : x ≠ .signal .cacheDegraded) :
    Undisturbed key (es ++ [x]) := by
  obtain ⟨⟨r, hfirst⟩, hquiet, hsignals⟩ := h
  refine ⟨⟨r, by simp [hfirst]⟩, ?_, ?_⟩
  · intro c r hmem
    rcases List.mem_append.1 hmem with hmem | hmem
    · exact hquiet c r hmem
    · exact hcache c r (List.mem_singleton.1 hmem).symm
  · cases x with
    | signal s => simpa [Exchange.signal?, hsignals, eq_comm] using hsignal
    | _ => simpa [Exchange.signal?] using hsignals

/-- The receipt is answered, after the store was asked and the receipt was offered to the server. -/
structure Heals (space key : String) (script : RedisScript) (before : List Exchange)
    (sent : List RedisCommand) (receipt : Receipt) (a : Except DomainError Receipt)
    (j : Journal MemoryStore (List RedisCommand)) : Prop where
  answer : a = .ok receipt
  exchanges : ∃ middle, Undisturbed key middle ∧ j.exchanges = before ++ middle ++
    [.cache (.set key receipt.toJson.render receiptTtl) (some (RedisCache.readStored script.set))]
  sent : j.cache = sent ++
    [["SET", fullKey space key, receipt.toJson.render, "NX", "PX", "86400000"]]

section Heals

variable {space key : String} {script : RedisScript} {clock : Instant} {paymentId : Nat → Uuid}
  {correlationId : Uuid} {before middle : List Exchange} {sent : List RedisCommand}
  {j : Journal MemoryStore (List RedisCommand)}

theorem heals_announce (hmiddle : Undisturbed key middle)
    (hexchanges : j.exchanges = before ++ middle) (hsent : j.cache = sent) {s : Signal}
    (hs : s ≠ .cacheDegraded) {p : Payment} {receipt : Receipt}
    (hreceipt : Receipt.ofPayment p = receipt) (limit : Span) :
    (announce s p key limit).Obeys
      ((besideRedis space script clock paymentId correlationId).rules fun _ => True)
      (Heals space key script before sent receipt) j := by
  subst hreceipt
  rintro j rfl
  refine ⟨trivial, ?_⟩
  rintro _ ⟨⟩ _ rfl
  refine ⟨trivial, ?_⟩
  intro r j' hleads
  cases hleads with | cache hcall =>
  rw [besideRedis, outcome_immediate] at hcall
  cases hcall
  refine ⟨rfl, ⟨middle ++ [.signal s], hmiddle.concat nofun (by simpa using hs), ?_⟩, ?_⟩
  · simp only [hexchanges, List.append_assoc]
    rfl
  · rw [← hsent, ← command_keep]

/-- A fresh payment is saved and answered. -/
theorem heals_issueAndSave {draft : Draft} {deadlines : Deadlines}
    (hmiddle : Undisturbed draft.idempotencyKey middle)
    (hexchanges : j.exchanges = before ++ middle) (hsent : j.cache = sent)
    (hworks : j.store.outboxFails = false) (hid : j.store.findId? (paymentId j.issued) = none)
    (hkey : j.store.findKey? draft.idempotencyKey = none) :
    (issueAndSave draft deadlines).Obeys
      ((besideRedis space script clock paymentId correlationId).rules fun _ => True)
      (Heals space draft.idempotencyKey script before sent
        (.ofPayment (draft.issue (paymentId j.issued) clock))) j := by
  let p := draft.issue (paymentId j.issued) clock
  have hsave : j.store.handle (.save p) = ((.ok p.rows, p.drained), j.store.written p) := by
    rw [MemoryStore.handle_save, MemoryStore.save_of_mayWrite
      (MemoryStore.mayWrite_eq_ok_iff.2 (.inr ⟨hid, hkey⟩)) hworks]
  rintro j rfl
  refine ⟨trivial, ?_⟩
  rintro now _ ⟨⟩ _ rfl
  refine ⟨trivial, ?_⟩
  rintro id _ ⟨⟩ _ rfl
  refine ⟨trivial, ?_⟩
  intro r j' hleads
  cases hleads with | store hcall =>
  rw [besideRedis, outcome_immediate, hsave] at hcall
  cases hcall
  have hmiddle := ((hmiddle.concat (x := .now clock) nofun nofun).concat
    (x := .paymentId (paymentId j.issued)) nofun nofun).concat
    (x := .store (.save p) (some (.ok p.rows, p.drained))) nofun nofun
  refine heals_announce (s := .paymentCreated) (p := p.drained) hmiddle ?_ ?_ nofun rfl _
  · simp only [hexchanges, List.append_assoc]
    rfl
  · exact hsent

/-- The payment that holds the key is answered, be it there already or fresh. -/
theorem heals_lookOrCreate (before : List Exchange) (sent : List RedisCommand) {draft : Draft}
    {deadlines : Deadlines} (hexchanges : j.exchanges = before) (hsent : j.cache = sent)
    (hworks : j.store.outboxFails = false)
    (hid : j.store.findId? (paymentId j.issued) = none) :
    (lookOrCreate draft deadlines).Obeys
      ((besideRedis space script clock paymentId correlationId).rules fun _ => True)
      (Heals space draft.idempotencyKey script before sent
        (j.store.receiptFor (draft.issue (paymentId j.issued) clock))) j := by
  have hfind : j.store.handle (.findByKey draft.idempotencyKey) =
      (.ok ((j.store.findKey? draft.idempotencyKey).map Payment.ofFacts),
        { j.store with lookups := j.store.lookups + 1 }) := rfl
  have hreceipt : j.store.receiptFor (draft.issue (paymentId j.issued) clock) =
      match j.store.findKey? draft.idempotencyKey with
      | some stored => .ofPayment (.ofFacts stored)
      | none => .ofPayment (draft.issue (paymentId j.issued) clock) := rfl
  rw [hreceipt]
  rintro j rfl
  refine ⟨trivial, ?_⟩
  intro r j' hleads
  cases hleads with | store hcall =>
  rw [besideRedis, outcome_immediate, hfind] at hcall
  cases hkey : j.store.findKey? draft.idempotencyKey with
  | some stored =>
    rw [hkey] at hcall
    cases hcall
    refine heals_announce (.lookup _ (some (.ok (some (.ofFacts stored))))) ?_ ?_
      (s := .storeReplay) nofun rfl _
    · rw [← hexchanges]
      rfl
    · exact hsent
  | none =>
    rw [hkey] at hcall
    cases hcall
    refine heals_issueAndSave (.lookup _ (some (.ok none))) ?_ ?_ ?_ ?_ ?_
    · rw [← hexchanges]
      rfl
    · exact hsent
    · exact hworks
    · exact hid
    · exact hkey

end Heals

/-! ## From the server to the store -/

/-- What has been exchanged with the server before the store is asked: the entry was read, and
    removed unless there was none. -/
def opening (script : RedisScript) (key : String) : List Exchange :=
  .cache (.get key) (some (RedisCache.readValue script.get)) ::
    if script.get = .nil then [] else [.cache (.evict key) (some (RedisCache.readCount script.del))]

/-- The commands for all that. -/
def openingCommands (space : String) (script : RedisScript) (key : String) : List RedisCommand :=
  ["GET", fullKey space key] :: if script.get = .nil then [] else [["DEL", fullKey space key]]

/-- The receipt that the server holds is the answer, and nothing else is done. -/
structure Replays (space key : String) (script : RedisScript) (s : Progress MemoryStore
    (List RedisCommand)) (receipt : Receipt) (a : Except DomainError Receipt)
    (j : Journal MemoryStore (List RedisCommand)) : Prop where
  answer : a = .ok receipt
  exchanges : j.exchanges =
    [.cache (.get key) (some (RedisCache.readValue script.get)), .signal .cacheReplay]
  sent : j.cache = s.cache ++ [["GET", fullKey space key]]
  store : j.store = s.store

/-- What an initiation ends with beside the server. -/
def Mends (space : String) (script : RedisScript) (clock : Instant) (paymentId : Nat → Uuid)
    (draft : Draft) (s : Progress MemoryStore (List RedisCommand)) (a : Except DomainError Receipt)
    (j : Journal MemoryStore (List RedisCommand)) : Prop :=
  (∀ receipt, script.get.Holds receipt →
    Replays space draft.idempotencyKey script s receipt a j) ∧
  ((∀ receipt, ¬ script.get.Holds receipt) →
    Heals space draft.idempotencyKey script (opening script draft.idempotencyKey)
      (s.cache ++ openingCommands space script draft.idempotencyKey)
      (s.store.receiptFor (draft.issue (paymentId s.issued) clock)) a j)

theorem mends_outline (space : String) {script : RedisScript} (clock : Instant)
    {paymentId : Nat → Uuid} (correlationId : Uuid) {c : InitiatePayment} {amount : Money}
    (hvalid : c.validate = .ok amount) (d : Deadlines)
    {s : Progress MemoryStore (List RedisCommand)}
    (hget : script.get = .nil ∨ ∃ bytes, script.get = .bulk bytes)
    (hworks : s.store.outboxFails = false) (hid : s.store.findId? (paymentId s.issued) = none) :
    (outline c d).Obeys
      ((besideRedis space script clock paymentId correlationId).rules fun _ => True)
      (Mends space script clock paymentId (c.draft amount) s) (s.journal []) := by
  unfold outline
  rw [hvalid]
  rintro _ rfl
  refine ⟨trivial, ?_⟩
  intro r j' hleads
  cases hleads with | cache hcall =>
  rw [besideRedis, outcome_immediate] at hcall
  cases hcall
  change (fromReading (c.draft amount) d (.of (some (RedisCache.readValue script.get)))).Obeys _ _ _
  rcases RedisReply.reading_cases hget with
    ⟨hnil, hreading⟩ | ⟨receipt, hholds, hreading⟩ | ⟨hsome, hnone, hreading⟩
  · have hnone : ∀ receipt, ¬ script.get.Holds receipt := by
      rintro receipt ⟨text, hreply, -⟩
      cases hnil.symm.trans hreply
    rw [hreading]
    refine .mono ?_ (heals_lookOrCreate (opening script c.idempotencyKey)
      (s.cache ++ openingCommands space script c.idempotencyKey) ?_ ?_ hworks hid)
    · exact fun a j hheals => ⟨fun receipt hholds => absurd hholds (hnone receipt), fun _ => hheals⟩
    · rw [opening, if_pos hnil]
      rfl
    · rw [openingCommands, if_pos hnil]
      rfl
  · rw [hreading]
    rintro _ rfl
    refine ⟨trivial, ?_⟩
    rintro _ ⟨⟩
    refine ⟨fun receipt' hholds' => ?_, fun hnone => absurd hholds (hnone receipt)⟩
    cases hholds.unique hholds'
    exact ⟨rfl, rfl, rfl, rfl⟩
  · rw [hreading]
    rintro _ rfl
    refine ⟨trivial, ?_⟩
    intro r j' hleads
    cases hleads with | cache hcall =>
    rw [besideRedis, outcome_immediate] at hcall
    cases hcall
    refine .mono ?_ (heals_lookOrCreate (opening script c.idempotencyKey)
      (s.cache ++ openingCommands space script c.idempotencyKey) ?_ ?_ hworks hid)
    · exact fun a j hheals => ⟨fun receipt hholds => absurd hholds (hnone receipt), fun _ => hheals⟩
    · rw [opening, if_neg hsome]
      rfl
    · rw [openingCommands, if_neg hsome]
      exact List.append_assoc _ _ _

/-- Beside a server that answers every command at once, an initiation ends. -/
theorem steady_besideRedis (space : String) (script : RedisScript) (clock : Instant)
    (paymentId : Nat → Uuid) (correlationId : Uuid) :
    (besideRedis space script clock paymentId correlationId).Steady :=
  ⟨fun _ _ _ => nofun, fun _ _ _ => nofun⟩

/-- Whatever the server holds for the key of a well-formed command, the command is answered with a
    receipt. Where it holds the bytes of a text that is one, this is the receipt, the only command
    is the one that reads the entry, and the store is left alone. Where it holds any other bytes,
    they are removed before the store is asked; where it holds nothing, nothing is removed. Then the
    receipt of the stored payment that holds the key, or else of a fresh one, is answered and, with
    the last command, offered to the server for a day. What the server replies to the last two
    commands has no say in this, every command is under the full key, and that the cache is
    degraded is never said. -/
theorem server_entries_heal (space : String) (script : RedisScript) (clock : Instant)
    (paymentId : Nat → Uuid) (correlationId : Uuid) {c : InitiatePayment} {amount : Money}
    (hvalid : c.validate = .ok amount) (d : Deadlines)
    (s : Progress MemoryStore (List RedisCommand))
    (hget : script.get = .nil ∨ ∃ bytes, script.get = .bulk bytes)
    (hworks : s.store.outboxFails = false) (hfresh : s.store.findId? (paymentId s.issued) = none) :
    let env := besideRedis space script clock paymentId correlationId
    let key := space ++ ":idempotency:" ++ c.idempotencyKey
    ∃ receipt s', (initiate c d).run env none s = (.finished (.ok receipt), s') ∧
      (∀ held, script.get.Holds held → receipt = held ∧
        s'.cache = s.cache ++ [["GET", key]] ∧ s'.store = s.store ∧
        storeCalls ((initiate c d).exchanges env none s) = []) ∧
      ((∀ held, ¬ script.get.Holds held) →
        receipt = s.store.receiptFor ((c.draft amount).issue (paymentId s.issued) clock) ∧
        s'.cache = s.cache ++ (["GET", key] :: if script.get = .nil then [] else [["DEL", key]]) ++
          [["SET", key, receipt.toJson.render, "NX", "PX", "86400000"]] ∧
        ∃ middle, Undisturbed c.idempotencyKey middle ∧
          (initiate c d).exchanges env none s = opening script c.idempotencyKey ++ middle ++
            [.cache (.set c.idempotencyKey receipt.toJson.render receiptTtl)
              (some (RedisCache.readStored script.set))]) ∧
      .cacheDegraded ∉ signals ((initiate c d).exchanges env none s) := by
  intro env key
  obtain ⟨answer, s', hrun, -⟩ := (spends_initiate c d).run
    (steady_besideRedis space script clock paymentId correlationId) s
  have hmends := mends_outline space clock correlationId hvalid d hget hworks hfresh
  rw [← unlogged_initiate, Program.obeys_unlogged] at hmends
  have hleaves := hmends.run none
  rw [hrun, List.nil_append] at hleaves
  obtain ⟨hreplays, hheals⟩ := hleaves
  by_cases hholds : ∃ held, script.get.Holds held
  · obtain ⟨held, hheld⟩ := hholds
    obtain ⟨rfl, hexchanges, hsent, hstore⟩ := hreplays held hheld
    replace hexchanges : (initiate c d).exchanges env none s = _ := hexchanges
    refine ⟨held, s', hrun, fun held' hheld' => ?_, fun hnone => absurd hheld (hnone held), ?_⟩
    · refine ⟨hheld.unique hheld', hsent, hstore, ?_⟩
      rw [hexchanges]
      rfl
    · rw [hexchanges]
      exact nofun
  · have hnone : ∀ held, ¬ script.get.Holds held := fun held hheld => hholds ⟨held, hheld⟩
    obtain ⟨rfl, ⟨middle, hmiddle, hexchanges⟩, hsent⟩ := hheals hnone
    replace hexchanges : (initiate c d).exchanges env none s = _ := hexchanges
    refine ⟨_, s', hrun, fun held hheld => absurd hheld (hnone held), fun _ => ⟨rfl, hsent, middle,
      hmiddle, hexchanges⟩, ?_⟩
    have hopening : signals (opening script c.idempotencyKey) = [] := by
      unfold opening
      split <;> rfl
    have hmiddle : .cacheDegraded ∉ signals middle := hmiddle.signals
    rw [hexchanges, signals_concat, signals, List.filterMap_append]
    change .cacheDegraded ∉ signals (opening script c.idempotencyKey) ++ signals middle ++ []
    rw [hopening, List.nil_append, List.append_nil]
    exact hmiddle

/-- What a server holds that has been written to in a wrong encoding: a surrogate, which is no
    character of a text. It cannot remove it, as it takes no more writes. -/
def readOnlyServer : RedisScript :=
  ⟨.bulk [0xED, 0xA0, 0x80], .error "READONLY", .error "READONLY"⟩

/-- The surrogate is asked to be removed and a fresh payment is created, and its receipt is offered
    and answered though the server refuses both. -/
theorem server_entries_heal_readOnly : ∃ s',
    (initiate ⟨⟨7⟩, "order-1", "customer-1", 100, "USD", "key-1"⟩ .standard).run
      (besideRedis "pay" readOnlyServer ⟨10, 0⟩ (fun n => ⟨BitVec.ofNat 128 (n + 2)⟩) ⟨0⟩) none
      ⟨{}, [], 0, 0, []⟩ = (.finished (.ok ⟨⟨2⟩, .pending⟩), s') ∧
    s'.cache = [["GET", "pay:idempotency:key-1"], ["DEL", "pay:idempotency:key-1"],
      ["SET", "pay:idempotency:key-1", (Receipt.toJson ⟨⟨2⟩, .pending⟩).render, "NX", "PX",
        "86400000"]] := by
  have hvalid : InitiatePayment.validate ⟨⟨7⟩, "order-1", "customer-1", 100, "USD", "key-1"⟩ =
      .ok ⟨100, "USD"⟩ := by
    decide +kernel
  have hnone : ∀ held, ¬ readOnlyServer.get.Holds held := by
    rintro held ⟨text, hreply, -⟩
    have hdecode := (Utf8.decode_eq_ok_iff _ text).2 (RedisReply.bulk.inj hreply)
    have hfault : Utf8.decode [0xED, 0xA0, 0x80] = .error ⟨0, some 1⟩ := by decide +kernel
    cases hfault.symm.trans hdecode
  obtain ⟨receipt, s', hrun, -, hheals, -⟩ := server_entries_heal "pay" readOnlyServer ⟨10, 0⟩
    (fun n => ⟨BitVec.ofNat 128 (n + 2)⟩) ⟨0⟩ hvalid .standard ⟨{}, [], 0, 0, []⟩
    (.inr ⟨_, rfl⟩) rfl rfl
  obtain ⟨rfl, hsent, -⟩ := hheals hnone
  exact ⟨s', hrun, hsent⟩

end Initiation

end PayOnce
