import PayOnce.Proofs.Http.Asked
import PayOnce.Proofs.Http.HeaderKey
import PayOnce.Proofs.Service.Entries
import PayOnce.Proofs.Text.Utf8
/-!
What becomes of the texts that requests for an initiation bring. The text of an object that spells a
request is taken in as that request. An object with a flaw and a text that is no JSON are answered
at once, and nobody is called.
-/

namespace PayOnce.Http

open Json Program Text

section Refused

variable {σ τ : Type} {env : Environment σ τ} {deadlines : Deadlines} {limits : Limits}
  {limit time b : Span} {r : Request} {bytes : Bytes} {s : Progress σ τ}

/-- Waiting ends within a budget that is long enough. -/
theorem run_wait_done {α : Type} {d : Span} (hd : s.elapsed + d < b) (a : α) :
    (Program.wait d (.done a)).run env (some b) s =
      (.finished a, { s with elapsed := s.elapsed + d }) := by
  simp only [run, withinBudget, hd, decide_true, if_true]

/-- A body that no request can be read from ends in a fault, be it for its type, for its length or
    for what it holds. -/
theorem run_takeIn_fault (hbody : r.body.Comes limit time bytes)
    (hdecode : ∀ q, InitiationRequest.decode (Utf8.glyphs bytes) ≠ .ok q)
    (htime : s.elapsed + time < b) :
    ∃ fault d, (takeIn limit r).run env (some b) s =
      (.finished (.error fault), { s with elapsed := s.elapsed + d }) := by
  cases hjson : announcesJson r.headers with
  | false =>
    rw [takeIn_unannounced hjson]
    exact ⟨.mediaType, 0, rfl⟩
  | true =>
    -- A body that fits is read to its end; one that does not is not even read.
    by_cases hfits : bytes.length ≤ longestBody
    · rw [run_takeIn (hbody.brings hfits) hjson]
      cases hread : InitiationRequest.decode (Utf8.glyphs bytes) with
      | ok q => exact absurd hread (hdecode q)
      | error fault => exact ⟨.json fault, time, run_wait_done htime _⟩
    · have hlong : longestBody < 0 + (r.body.pieces.flatMap Piece.bytes).length := by
        rw [Nat.zero_add, hbody.holds]
        exact Nat.lt_of_not_le hfits
      obtain ⟨d, hd, hcollect⟩ : ∃ d ≤ (r.body.pieces.map Piece.delay).sum, ∀ s : Progress σ τ,
          (collect limit .complete r.body.pieces 0 []).run env (some b) s =
            (Program.wait d (.done (.error .tooLong))).run env (some b) s :=
        run_collect_tooLong hbody.comesInTime (Nat.zero_le _) hlong []
      rw [hbody.lasts] at hd
      refine ⟨.tooLong, d, ?_⟩
      rw [takeIn_announced hjson, hbody.complete, run_bind, hcollect,
        run_wait_done (Nat.lt_of_le_of_lt (Nat.add_le_add_left hd _) htime)]
      rfl

/-- A request is refused for its body: the answer has status 400 and says so, and nothing has been
    done but to wait. -/
structure Served.RefusesBody (v : Served σ τ) (s : Progress σ τ) : Prop where
  status : v.response.status = 400
  content : ∃ fault : BodyFault, v.response.content =
    .json (errorBody "invalid_json" ("cannot parse request body: " ++ fault.message))
  progress : ∃ waited, v.progress = { s with elapsed := s.elapsed + waited }

theorem serve_fault (fresh : Uuid) (hr : r.Orders) (hlimit : limits.request ≠ 0) {fault : BodyFault}
    {d : Span} (htake : (takeIn limits.read r).run env (some limits.request) s =
      (.finished (.error fault), { s with elapsed := s.elapsed + d })) :
    (serve env deadlines limits fresh r s).RefusesBody s := by
  have habout : r.AboutPayments := .inl ⟨hr.method, by rw [hr.path]; decide⟩
  have hoptions : r.method ≠ "OPTIONS" := by simp [hr.method]
  have hrespond (span : LogSpan) : respond env deadlines limits span r s =
      (.json 400 (errorBody "invalid_json" ("cannot parse request body: " ++ fault.message)),
        { s with elapsed := s.elapsed + d }) := by
    rw [respond, if_neg hlimit, hr.handle_eq, inSpan_bind, inSpan_takeIn, run_bind, htake]
    rfl
  have hserve : (serve env deadlines limits fresh r s).response.status = 400 ∧
      (serve env deadlines limits fresh r s).response.content = .json (errorBody "invalid_json"
        ("cannot parse request body: " ++ fault.message)) ∧
      (serve env deadlines limits fresh r s).progress = { s with elapsed := s.elapsed + d } := by
    simp only [serve, hoptions, if_false, hrespond, fitMethod_eq habout, Response.withHeaders_kept]
    exact ⟨rfl, rfl, rfl⟩
  exact ⟨hserve.1, ⟨fault, hserve.2.1⟩, ⟨d, hserve.2.2⟩⟩

/-- A request for an initiation is refused if none can be read from its body. -/
theorem refusesBody_of_decode (fresh : Uuid) (hr : r.Orders)
    (hbody : r.body.Comes limits.read time bytes) (htime : s.elapsed + time < limits.request)
    (hdecode : ∀ q, InitiationRequest.decode (Utf8.glyphs bytes) ≠ .ok q) :
    (serve env deadlines limits fresh r s).RefusesBody s := by
  obtain ⟨fault, d, htake⟩ := run_takeIn_fault hbody hdecode htime
  exact serve_fault fresh hr (Nat.ne_zero_of_lt htime) htake

/-- The text of an object is taken in as a request exactly if its members spell the request and
    only blanks follow, where members that are left out are empty or zero. A request for an
    initiation is refused, with nobody called and nothing signalled, if its text is an object with a
    flaw, or is no JSON. -/
theorem bodies_read_exactly (env : Environment σ τ) (deadlines : Deadlines) (fresh : Uuid)
    (hr : r.Orders) {text : String} (hbody : r.body.Comes limits.read time (Utf8.encode text))
    (htime : s.elapsed + time < limits.request) :
    (∀ (lead inner : Gap) (ms : List MemberText) (tail : List Char),
      text.toList = lead.chars ++ objectText inner ms ++ tail → (∀ m ∈ ms, Spelt m.item.value) →
        (announcesJson r.headers = true → (Utf8.encode text).length ≤ longestBody → ∀ q,
          (takeIn limits.read r).run env (some limits.request) s =
              (.finished (.ok q), { s with elapsed := s.elapsed + time }) ↔
            q.SpeltBy ms ∧ ∀ c ∈ tail, isGap (some c) = true) ∧
        (InitiationRequest.Flawed ms tail →
          (serve env deadlines limits fresh r s).RefusesBody s)) ∧
    (¬ WellFormed text.toList → (serve env deadlines limits fresh r s).RefusesBody s) := by
  have hglyphs := Utf8.glyphs_encode text
  refine ⟨?_, ?_⟩
  · intro lead inner ms tail htext hms
    have hread := InitiationRequest.decode_objectText lead inner hms tail
    rw [← htext, ← hglyphs] at hread
    refine ⟨?_, ?_⟩
    · intro hjson hfits q
      rw [run_takeIn (hbody.brings hfits) hjson, run_wait_done htime, ← hread q]
      cases InitiationRequest.decode (Utf8.glyphs (Utf8.encode text)) <;> simp [Except.mapError]
    · intro hflaw
      refine refusesBody_of_decode fresh hr hbody htime ?_
      intro q hdecode
      exact (InitiationRequest.flawed_iff ms tail).1 hflaw q ((hread q).1 hdecode)
  · intro hmalformed
    refine refusesBody_of_decode fresh hr hbody htime ?_
    intro q hdecode
    rw [hglyphs] at hdecode
    exact hmalformed (InitiationRequest.wellFormed_of_decode hdecode)

end Refused

/-- A request for an initiation with a text for its body. -/
def orderOf (text : String) : Request where
  method := "POST"
  target := ⟨none, "", "/v1/payments", none⟩
  headers := [⟨"content-type", Utf8.encode "application/json"⟩]
  body := ⟨[⟨0, Utf8.encode text⟩], .complete⟩

theorem orderOf_orders (text : String) : (orderOf text).Orders :=
  ⟨rfl, rfl⟩

theorem orderOf_comes (text : String) :
    (orderOf text).body.Comes Limits.standard.read 0 (Utf8.encode text) where
  complete := rfl
  endsInTime := by decide
  comesInTime := by simp [orderOf, Limits.standard, Span.ofSeconds]
  lasts := rfl
  holds := by simp [orderOf]

/-- The members of an object that spells a request in an unusual way: the amount comes first, with
    blanks around its colon, then a member that nobody asks for, and then an order with an escape in
    its name. The other members are left out. -/
def oddMembers : List MemberText :=
  let blank : Gap := ⟨[' '], List.forall_mem_singleton.2 rfl⟩
  [⟨.none, Initiation.plainly "amount_cents" (by decide), blank,
      ⟨blank, "-5".toList, .none⟩⟩,
    Initiation.tightMember (Initiation.plainly "note" (by decide))
      (listText .none [⟨.none, objectText .none [], .none⟩]),
    Initiation.tightMember
      (.unit "006f".toList 0x6f ⟨rfl, rfl⟩ :: Initiation.plainly "rder_id" (by decide))
      (quoted (Initiation.plainly "A" (by decide)))]

/-- The object of these members and a line break. -/
def oddBody : String :=
  "\x7b\"amount_cents\" : -5,\"note\":[\x7b\x7d],\"\\u006frder_id\":\"A\"\x7d\n"

/-- The members of an object with an amount that is not written as a whole number. -/
def fractionMembers : List MemberText :=
  [Initiation.tightMember (Initiation.plainly "amount_cents" (by decide)) "5.0".toList]

theorem oddMembers_spelt : ∀ m ∈ oddMembers, Spelt m.item.value := by
  have hamount : Numeral "-5".toList := by
    have hdigits : "-5".toList = Decimal.intChars (-5) := by decide +kernel
    rw [hdigits]
    exact Number.numeral_intChars _
  have hobject : Spelt (objectText .none []) := .object _ _ (by simp)
  exact List.forall_mem_cons.2 ⟨.number hamount, List.forall_mem_cons.2
    ⟨.list _ _ (List.forall_mem_singleton.2 hobject), List.forall_mem_singleton.2 (.text _)⟩⟩

theorem oddMembers_speltBy : InitiationRequest.SpeltBy ⟨"A", "", -5, "", ""⟩ oddMembers where
  names := List.forall_mem_cons.2 ⟨⟨"amount_cents", by decide +kernel⟩, List.forall_mem_cons.2
    ⟨⟨"note", by decide +kernel⟩, List.forall_mem_singleton.2 ⟨"order_id", by decide +kernel⟩⟩⟩
  orderId := .member rfl ⟨_, rfl, by decide +kernel⟩
  customerId := .nothing rfl
  amount := .member rfl ⟨by decide +kernel, by decide⟩
  currency := .nothing rfl
  idempotencyKey := .nothing rfl

theorem fractionMembers_flawed : InitiationRequest.Flawed fractionMembers [] := by
  have hnamed : membersNamed fractionMembers "amount_cents" = fractionMembers := rfl
  refine .amount (by rw [hnamed]; exact List.mem_singleton_self _) ?_
  intro n hn
  have hpoint : '.' ∈ Decimal.intChars n := hn.1 ▸ (by decide : '.' ∈ "5.0".toList)
  exact (Decimal.isDigit_of_mem_intChars hpoint).elim (by decide) (by decide)

/-- The odd object is taken in, and an amount with a fraction or with a zero in front is refused. -/
theorem bodies_read_exactly_odd :
    (takeIn Limits.standard.read (orderOf oddBody)).run inMemory (some Limits.standard.request)
        ⟨{}, {}, 0, 0, []⟩ = (.finished (.ok ⟨"A", "", -5, "", ""⟩), ⟨{}, {}, 0, 0, []⟩) ∧
      (serve inMemory .standard .standard ⟨1⟩ (orderOf "\x7b\"amount_cents\":5.0\x7d")
        ⟨{}, {}, 0, 0, []⟩).RefusesBody ⟨{}, {}, 0, 0, []⟩ ∧
      (serve inMemory .standard .standard ⟨1⟩ (orderOf "\x7b\"amount_cents\":05\x7d")
        ⟨{}, {}, 0, 0, []⟩).RefusesBody ⟨{}, {}, 0, 0, []⟩ := by
  have hall (text : String) := bodies_read_exactly (s := ⟨{}, {}, 0, 0, []⟩) inMemory .standard ⟨1⟩
    (orderOf_orders text) (orderOf_comes text) (by decide)
  refine ⟨?_, ?_, (hall _).2 (by decide +kernel)⟩
  · obtain ⟨hread, -⟩ := (hall oddBody).1 .none .none oddMembers ['\n'] (by decide +kernel)
      oddMembers_spelt
    exact (hread (by decide +kernel) (by decide +kernel) _).2
      ⟨oddMembers_speltBy, List.forall_mem_singleton.2 rfl⟩
  · have hspelt : ∀ m ∈ fractionMembers, Spelt m.item.value := by
      have hdigits (d : Char) (hd : Decimal.isDigit d = true) : Digits [d] :=
        ⟨by simp, by simpa using hd⟩
      have hfive : Numeral ([] ++ ['5'] ++ ['.', '0'] ++ []) :=
        .mk .plus (.digits (by decide) (hdigits _ rfl)) (.digits (hdigits _ rfl)) .none
      exact List.forall_mem_singleton.2 (.number hfive)
    exact ((hall _).1 .none .none fractionMembers [] (by decide +kernel) hspelt).2
      fractionMembers_flawed

/-- The members of an object that spells a request, but for one whose name is half a character. -/
def halfNamedMembers : List MemberText :=
  [Initiation.tightMember [.unit "D800".toList 0xD800 ⟨rfl, rfl⟩] "null".toList,
    Initiation.tightMember (Initiation.plainly "order_id" (by decide))
      (quoted (Initiation.plainly "A" (by decide)))]

/-- It is not enough that the members of a request spell it: all names have to spell texts. -/
theorem half_named_body_refused :
    ¬ ∀ (text : String) (ms : List MemberText) (q : InitiationRequest),
      text.toList = objectText .none ms → (∀ m ∈ ms, Spelt m.item.value) →
      Gives ms "order_id" Says "" q.orderId → Gives ms "customer_id" Says "" q.customerId →
      Gives ms "amount_cents" Counts 0 q.amount → Gives ms "currency" Says "" q.currency →
      Gives ms "idempotency_key" Says "" q.idempotencyKey →
      ((takeIn Limits.standard.read (orderOf text)).run inMemory (some Limits.standard.request)
        ⟨{}, {}, 0, 0, []⟩).1 = .finished (.ok q) := by
  intro hall
  have hspelt : ∀ m ∈ halfNamedMembers, Spelt m.item.value :=
    List.forall_mem_cons.2 ⟨.null, List.forall_mem_singleton.2 (.text _)⟩
  have htaken := hall (String.ofList (objectText .none halfNamedMembers)) halfNamedMembers
    ⟨"A", "", 0, "", ""⟩ String.toList_ofList hspelt (.member rfl ⟨_, rfl, by decide +kernel⟩)
    (.nothing rfl) (.nothing rfl) (.nothing rfl) (.nothing rfl)
  revert htaken
  decide +kernel

end PayOnce.Http
