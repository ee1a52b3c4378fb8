import PayOnce.Proofs.Payment.Spelling
import PayOnce.Proofs.Service.CacheBlind
/-!
What becomes of the texts that the cache holds. A text that a receipt was cached as is replayed,
and so is every object that spells a receipt, with whatever members beside; any other object is
taken for corrupt and removed.
-/

namespace PayOnce.Initiation

open Json Program

/-- An entry is replayed: what finds it in the cache gives a signal and ends with a receipt. -/
def ReplayedAs (entry : String) (r : Receipt) : Prop :=
  ∀ key limit, ∃ next, receiptFromCache key limit = .cacheWithin limit (.get key) next ∧
    next (some (.ok (some entry))) = do
      emit .cacheReplay
      return some r

/-- An entry is corrupt: what finds it in the cache removes it and ends without a receipt. -/
def Corrupt (entry : String) : Prop :=
  ∀ key limit, ∃ next reason, receiptFromCache key limit = .cacheWithin limit (.get key) next ∧
    next (some (.ok (some entry))) = do
      evictCorrupt key reason limit
      return none

theorem replayedAs_iff (entry : String) (r : Receipt) :
    ReplayedAs entry r ↔ Receipt.decode (glyphsOf entry) = .ok r := by
  constructor
  · intro h
    obtain ⟨next, hnext, hreplay⟩ := h "" .zero
    rw [receiptFromCache_eq] at hnext
    cases hnext
    simp only [timely, heard] at hreplay
    cases hdecode : Receipt.decode (glyphsOf entry) with
    | ok receipt =>
      rw [hdecode] at hreplay
      have hsignal : signal .cacheReplay (done (some receipt)) =
          signal .cacheReplay (done (some r)) := hreplay
      cases hsignal
      rfl
    | error fault =>
      rw [hdecode] at hreplay
      cases hreplay
  · intro h key limit
    refine ⟨_, receiptFromCache_eq key limit, ?_⟩
    simp only [timely, heard, h]

theorem corrupt_iff (entry : String) : Corrupt entry ↔ ∀ r, ¬ ReplayedAs entry r := by
  simp only [replayedAs_iff]
  constructor
  · intro h r hdecode
    obtain ⟨next, reason, hnext, hevict⟩ := h "" .zero
    rw [receiptFromCache_eq] at hnext
    cases hnext
    simp only [timely, heard, hdecode] at hevict
    cases hevict
  · intro h key limit
    cases hdecode : Receipt.decode (glyphsOf entry) with
    | ok r => exact absurd hdecode (h r)
    | error fault =>
      refine ⟨_, fault.message, receiptFromCache_eq key limit, ?_⟩
      simp only [timely, heard, hdecode]

/-- The text that a receipt is cached as is replayed as that receipt, and it is one text, wherever
    the receipt was read from. An object is replayed as a receipt exactly if its members spell the
    receipt and only blanks follow, and it is corrupt exactly if it has a flaw. -/
theorem entries_read_exactly :
    (∀ key (r : Receipt) limit, ∃ next, keepReceipt key r limit =
      .cacheWithin limit (.set key r.toJson.render receiptTtl) next) ∧
    (∀ r : Receipt, ReplayedAs r.toJson.render r ∧ r.toJson.render =
      "\x7b\"payment_id\":\"" ++ r.paymentId.text ++ "\",\"status\":\"" ++ r.status.name
        ++ "\"\x7d") ∧
    (Function.Injective fun r : Receipt => r.toJson.render) ∧
    ∀ (entry : String) (lead inner : Gap) (ms : List MemberText) (tail : List Char),
      entry.toList = lead.chars ++ objectText inner ms ++ tail → (∀ m ∈ ms, Spelt m.item.value) →
        (∀ r, ReplayedAs entry r ↔ r.SpeltBy ms ∧ ∀ c ∈ tail, isGap (some c) = true) ∧
        (Corrupt entry ↔ Receipt.Flawed ms tail) := by
  refine ⟨fun key r limit => ⟨_, rfl⟩, ?_, ?_, ?_⟩
  · intro r
    exact ⟨(replayedAs_iff _ r).2 r.decode_render, r.render_toJson⟩
  · intro r r' heq
    have hdecode := r.decode_render
    simp only at heq
    rw [heq, r'.decode_render] at hdecode
    cases hdecode
    rfl
  · intro entry lead inner ms tail hentry hms
    have hreplayed (r : Receipt) :
        ReplayedAs entry r ↔ r.SpeltBy ms ∧ ∀ c ∈ tail, isGap (some c) = true := by
      rw [replayedAs_iff, glyphsOf, hentry, Receipt.decode_objectText lead inner hms]
    refine ⟨hreplayed, ?_⟩
    simp only [corrupt_iff, hreplayed, Receipt.flawed_iff]

/-- The pieces of a text that needs no escapes. -/
def plainly (s : String)
    (h : s.toList.all fun c => c ≠ '"' ∧ c ≠ '\\' ∧ 32 ≤ c.toNat) : List Piece :=
  s.toList.pmap .plain fun c hc => of_decide_eq_true (List.all_eq_true.1 h c hc)

/-- A member without blanks. -/
def tightMember (name : List Piece) (value : List Char) : MemberText :=
  ⟨.none, name, .none, ⟨.none, value, .none⟩⟩

/-- The members of an object that spells a receipt in an unusual way: the status comes first, with
    an escape in its name, then a member that nobody asks for, and then an identifier without
    hyphens. -/
def unusualMembers : List MemberText :=
  [tightMember (.unit "0073".toList 0x73 ⟨rfl, rfl⟩ :: plainly "tatus" (by decide))
      (quoted (plainly "PENDING" (by decide))),
    tightMember (plainly "x" (by decide)) (listText .none []),
    tightMember (plainly "payment_id" (by decide))
      (quoted (plainly "0000000000000000000000000000000A" (by decide)))]

/-- The object of these members and a line break. -/
def unusualEntry : String :=
  "\x7b\"\\u0073tatus\":\"PENDING\",\"x\":[]," ++
    "\"payment_id\":\"0000000000000000000000000000000A\"\x7d\n"

theorem entries_read_exactly_unusual : ReplayedAs unusualEntry ⟨⟨10⟩, .pending⟩ := by
  have hspelt : ∀ m ∈ unusualMembers, Spelt m.item.value :=
    List.forall_mem_cons.2 ⟨.text _, List.forall_mem_cons.2 ⟨.list _ _ (by simp),
      List.forall_mem_cons.2 ⟨.text _, by simp⟩⟩⟩
  have hentry : unusualEntry.toList
      = Gap.none.chars ++ objectText .none unusualMembers ++ ['\n'] := by
    decide +kernel
  obtain ⟨-, -, -, hread⟩ := entries_read_exactly
  refine ((hread _ _ _ _ _ hentry hspelt).1 _).2 ⟨⟨?_, ?_, ?_⟩, List.forall_mem_singleton.2 rfl⟩
  · exact List.forall_mem_cons.2 ⟨⟨"status", by decide +kernel⟩,
      List.forall_mem_cons.2 ⟨⟨"x", by decide +kernel⟩,
        List.forall_mem_cons.2 ⟨⟨"payment_id", by decide +kernel⟩, by simp⟩⟩⟩
  · refine ⟨_, rfl, "0000000000000000000000000000000A", ⟨_, rfl, by decide +kernel⟩, .simple ?_⟩
    decide +kernel
  · exact ⟨_, rfl, .name ⟨_, rfl, by decide +kernel⟩⟩

/-- The members of an object that has the two members of a receipt, and one whose name is half a
    character. -/
def halfNamedMembers : List MemberText :=
  [tightMember [.unit "d800".toList 0xD800 ⟨rfl, rfl⟩] "null".toList,
    tightMember (plainly "payment_id" (by decide))
      (quoted (plainly "0000000000000000000000000000000a" (by decide))),
    tightMember (plainly "status" (by decide)) (quoted (plainly "PENDING" (by decide)))]

/-- It is not enough that the two members of a receipt are there once each: all names have to spell
    texts. -/
theorem half_named_entry_corrupt :
    ¬ ∀ (entry : String) (ms : List MemberText) (r : Receipt),
      entry.toList = objectText .none ms → (∀ m ∈ ms, Spelt m.item.value) →
      (∃ m, membersNamed ms "payment_id" = [m] ∧
        ∃ s, Says m.item.value s ∧ Uuid.Spells s.toList r.paymentId) →
      (∃ m, membersNamed ms "status" = [m] ∧ r.status.SpeltAs m.item.value) →
      ReplayedAs entry r := by
  intro hall
  have hspelt : ∀ m ∈ halfNamedMembers, Spelt m.item.value :=
    List.forall_mem_cons.2 ⟨.null, List.forall_mem_cons.2 ⟨.text _,
      List.forall_mem_cons.2 ⟨.text _, by simp⟩⟩⟩
  have hreplayed := hall (String.ofList (objectText .none halfNamedMembers)) halfNamedMembers
    ⟨⟨10⟩, .pending⟩ String.toList_ofList hspelt
    ⟨_, rfl, "0000000000000000000000000000000a", ⟨_, rfl, by decide +kernel⟩,
      .simple (by decide +kernel)⟩
    ⟨_, rfl, .name ⟨_, rfl, by decide +kernel⟩⟩
  rw [replayedAs_iff, glyphsOf, String.toList_ofList] at hreplayed
  revert hreplayed
  decide +kernel

end PayOnce.Initiation
