import PayOnce.Proofs.Json.Members
import PayOnce.Proofs.Payment.Move
import PayOnce.Proofs.Payment.Receipt
/-!
The texts that identifiers, statuses and receipts are read from. An object is read as a receipt if
it has the two members of a receipt once each, whatever other members it has, and only blanks
follow.
-/

namespace PayOnce

open Json Text Value

/-! ## Fields -/

theorem fieldReader_eq_bind {α : Type} (value : α → FieldValue) (read : Reader α) (cs : Glyphs) :
    fieldReader value read cs = read cs >>= fun r => .ok (value r.1, r.2) := by
  unfold fieldReader
  cases read cs <;> rfl

theorem understands_fieldReader {α : Type} {value : α → FieldValue} {read : Reader α}
    {denotes : List Char → α → Prop} (h : Understands read denotes) :
    Understands (fieldReader value read) fun v x => ∃ a, denotes v a ∧ x = value a := by
  intro v hv g cs hcs x rest
  rw [fieldReader_eq_bind, read_bind_eq_ok_iff (h hv g hcs)]
  simp only [Except.ok.injEq, Prod.mk.injEq, eq_comm, ← and_assoc, exists_and_right]

/-- A field that holds an identifier denotes it in each of its spellings. -/
def knownId (name : String) : Known FieldValue where
  toMember := idField name
  denotes v x := ∃ u, (∃ s, Says v s ∧ Uuid.ofText? s = some u) ∧ x = .id u
  understands := understands_fieldReader (understands_readSpelled Uuid.ofText? Uuid.complaint)

/-! ## Statuses -/

/-- A status has two spellings: its name, and an object with the name as its one member, which is
    null. -/
inductive Status.SpeltAs (s : Status) : List Char → Prop
  | name {v : List Char} (h : Says v s.name) : SpeltAs s v
  | object {inner : Gap} {m : MemberText} (hname : spelled? m.name = some s.name)
      (hnull : m.item.value = "null".toList) : SpeltAs s (objectText inner [m])

/-- Reads on behind the name of a status that is spelled as an object. -/
def readNull (s : Status) (cs : Glyphs) : Except Fault (Status × Glyphs) := do
  let rest ← orMalformed (readColon cs)
  let rest ← orMalformed (readWord "null".toList (skipGaps rest))
  match skipGaps rest with
  | some '}' :: rest => .ok (s, rest)
  | _ => .error .malformed

theorem readStatus_brace (g : Gap) (cs : Glyphs) :
    readStatus (g.glyphs ++ some '{' :: cs)
      = readSpelled Status.ofName? statusComplaint cs >>= fun r => readNull r.1 r.2 := by
  have hopen : isGap (some '{') = false := by decide
  rw [readStatus, Gap.skipGaps_append, skipGaps_cons hopen]
  rfl

theorem readNull_eq_ok_iff {m : MemberText} (hm : Spelt m.item.value) (ms : List MemberText)
    (s s' : Status) (cs rest : Glyphs) :
    readNull s (m.behind.glyphs ++ some ':' :: (m.item.chars.map some
        ++ ((furtherParts '}' MemberText.chars ms).map some ++ cs))) = .ok (s', rest)
      ↔ (ms = [] ∧ m.item.value = "null".toList) ∧ s = s' ∧ cs = rest := by
  have hcolon : isGap (some ':') = false := by decide
  simp only [readNull, readColon, Gap.skipGaps_append, skipGaps_cons hcolon, bind_eq_ok_iff,
    orMalformed_eq_ok_iff, Option.some.injEq, exists_eq_left', m.item.glyphs, hm.skipGaps,
    readWord_null_eq_some_iff hm]
  constructor
  · rintro ⟨_, ⟨hvalue, rfl⟩, hend⟩
    rw [Gap.skipGaps_append] at hend
    cases ms with
    | nil =>
      have hclose : isGap (some '}') = false := by decide
      rw [furtherParts, List.map_singleton, List.singleton_append, skipGaps_cons hclose] at hend
      cases hend
      exact ⟨⟨rfl, hvalue⟩, rfl, rfl⟩
    | cons m' ms =>
      have hcomma : isGap (some ',') = false := by decide
      rw [furtherParts, List.cons_append, List.map_cons, List.cons_append,
        skipGaps_cons hcomma] at hend
      cases hend
  · rintro ⟨⟨rfl, hvalue⟩, rfl, rfl⟩
    have hclose : isGap (some '}') = false := by decide
    refine ⟨_, ⟨hvalue, rfl⟩, ?_⟩
    rw [Gap.skipGaps_append, furtherParts, List.map_singleton, List.singleton_append,
      skipGaps_cons hclose]
    rfl

theorem readStatus_object_eq_ok_iff {ms : List MemberText} (hms : ∀ m ∈ ms, Spelt m.item.value)
    (g inner : Gap) (s : Status) (cs rest : Glyphs) :
    readStatus (g.glyphs ++ ((objectText inner ms).map some ++ cs)) = .ok (s, rest)
      ↔ (∃ m, ms = [m] ∧ spelled? m.name = some s.name ∧ m.item.value = "null".toList) ∧
        rest = cs := by
  rw [objectText, List.cons_append, List.map_cons, List.map_append, List.cons_append,
    List.append_assoc, readStatus_brace, bind_eq_ok_iff]
  change (∃ r, readSpelled _ _ (inner.glyphs ++ _) = _ ∧ _) ↔ _
  simp only [Prod.exists, readSpelled_eq_ok_iff, readText_gap]
  cases ms with
  | nil =>
    have hclose : isGap (some '}') = false := by decide
    simp [Value.allParts, readText, skipGaps_cons hclose]
  | cons m ms =>
    rw [Value.allParts, List.map_append, List.append_assoc, m.glyphs]
    have hread (s' : Status) :=
      readNull_eq_ok_iff (hms m List.mem_cons_self) ms s' s cs rest
    simp only [readText_quoted_eq_ok_iff, Status.ofName?_eq_some_iff]
    constructor
    · rintro ⟨s', _, ⟨_, ⟨hname, rfl⟩, rfl⟩, hnull⟩
      obtain ⟨⟨rfl, hvalue⟩, rfl, hrest⟩ := (hread s').1 hnull
      exact ⟨⟨m, rfl, hname, hvalue⟩, hrest.symm⟩
    · rintro ⟨⟨_, heq, hname, hvalue⟩, rfl⟩
      cases heq
      exact ⟨s, _, ⟨_, ⟨hname, rfl⟩, rfl⟩, (hread s).2 ⟨⟨rfl, hvalue⟩, rfl, rfl⟩⟩

theorem readStatus_eq_readSpelled (g : Gap) {c : Char} (hgap : isGap (some c) = false)
    (hbrace : c ≠ '{') (cs : Glyphs) :
    readStatus (g.glyphs ++ some c :: cs)
      = readSpelled Status.ofName? statusComplaint (g.glyphs ++ some c :: cs) := by
  rw [readStatus, Gap.skipGaps_append, skipGaps_cons hgap]
  split
  · next heq => exact absurd (by simpa using congrArg List.head? heq) hbrace
  · rfl

theorem understands_readStatus : Understands readStatus fun v s => s.SpeltAs v := by
  intro v hv g cs hcs s rest
  have hspelled := understands_readSpelled Status.ofName? statusComplaint hv g hcs s rest
  simp only [Status.ofName?_eq_some_iff] at hspelled
  constructor
  · intro hread
    obtain ⟨inner, ms, rfl, hms⟩ | ⟨c, ds, rfl, hgap, hbrace⟩ := hv.eq_objectText_or
    · obtain ⟨⟨m, rfl, hname, hnull⟩, hrest⟩ := (readStatus_object_eq_ok_iff hms ..).1 hread
      exact ⟨.object hname hnull, hrest⟩
    · rw [List.map_cons, List.cons_append, readStatus_eq_readSpelled g hgap hbrace] at hread
      obtain ⟨⟨_, hspells, rfl⟩, hrest⟩ := hspelled.1 hread
      exact ⟨.name hspells, hrest⟩
  · rintro ⟨hs, hrest⟩
    cases hs with
    | name hspells =>
      obtain ⟨ps, rfl, hps⟩ := hspells
      rw [quoted, List.cons_append, List.map_cons, List.cons_append] at hspelled ⊢
      rw [readStatus_eq_readSpelled g (by decide) (by decide)]
      exact hspelled.2 ⟨⟨s.name, ⟨ps, rfl, hps⟩, rfl⟩, hrest⟩
    | @object inner m hname hnull =>
      have hms : ∀ m' ∈ [m], Spelt m'.item.value := by
        intro m' hm'
        rw [List.mem_singleton.1 hm', hnull]
        exact .null
      exact (readStatus_object_eq_ok_iff hms ..).2 ⟨⟨m, rfl, hname, hnull⟩, hrest⟩

/-- A field that holds a status denotes it in both of its spellings. -/
def knownStatus (name : String) : Known FieldValue where
  toMember := statusField name
  denotes v x := ∃ s : Status, s.SpeltAs v ∧ x = .status s
  understands := understands_fieldReader understands_readStatus

/-! ## Receipts -/

/-- Members that spell a receipt: each of them has a name, and there is one with the payment's
    identifier and one with its status. -/
structure Receipt.SpeltBy (r : Receipt) (ms : List MemberText) : Prop where
  names : ∀ m ∈ ms, ∃ name, spelled? m.name = some name
  id : ∃ m, membersNamed ms "payment_id" = [m] ∧
    ∃ s, Says m.item.value s ∧ Uuid.Spells s.toList r.paymentId
  status : ∃ m, membersNamed ms "status" = [m] ∧ r.status.SpeltAs m.item.value

/-- The fields of a receipt. -/
def Receipt.known : List (Known FieldValue) :=
  [knownId "payment_id", knownStatus "status"]

theorem decodeRecord_eq_ok_iff {α : Type} (shape : String) (fields : List (Member FieldValue))
    (make : Found FieldValue → Option α) (cs : Glyphs) (a : α) :
    decodeRecord shape fields make cs = .ok a
      ↔ ∃ found, readAll (readRecord shape fields) cs = .ok found ∧ make found = some a := by
  unfold decodeRecord
  cases readAll (readRecord shape fields) cs with
  | error fault => simp
  | ok found => cases hmake : make found <;> simp [hmake]

/-- What was found is a receipt if it is its two values. -/
theorem Receipt.decode_eq_ok_iff_found (cs : Glyphs) (r : Receipt) :
    decode cs = .ok r ↔ ∃ found,
      readAll (readRecord "a receipt" (known.map Known.toMember)) cs = .ok found ∧
      found.get? "payment_id" = some (.id r.paymentId) ∧
      found.get? "status" = some (.status r.status) := by
  unfold decode
  rw [decodeRecord_eq_ok_iff]
  refine exists_congr fun found => and_congr Iff.rfl ?_
  constructor
  · intro h
    split at h
    · next hid hstatus =>
      cases h
      exact ⟨hid, hstatus⟩
    · cases h
  · rintro ⟨hid, hstatus⟩
    simp only [hid, hstatus]

theorem Receipt.find?_known {name : String} {field : Known FieldValue}
    (h : Known.find? known name = some field) :
    name = "payment_id" ∧ field = knownId "payment_id" ∨
      name = "status" ∧ field = knownStatus "status" := by
  obtain ⟨hmem, rfl⟩ := Known.of_find? h
  rw [known, List.mem_cons, List.mem_singleton] at hmem
  obtain rfl | rfl := hmem
  · exact .inl ⟨rfl, rfl⟩
  · exact .inr ⟨rfl, rfl⟩

/-- Members that were taken for the values of a receipt spell it. -/
theorem Receipt.speltBy_of_addsAll {ms : List MemberText} {found : Found FieldValue} {r : Receipt}
    (hall : AddsAll known [] ms found) (hid : found.get? "payment_id" = some (.id r.paymentId))
    (hstatus : found.get? "status" = some (.status r.status)) : r.SpeltBy ms := by
  have hgathers : Gathers known ms found := hall.gathers gathers_nil
  refine ⟨hgathers.spelled, ?_, ?_⟩
  · have hfield : Known.find? known "payment_id" = some (knownId "payment_id") := rfl
    obtain ⟨m, honly, u, ⟨s, hspells, hs⟩, hu⟩ := hgathers.present hfield hid
    cases hu
    exact ⟨m, honly, s, hspells, (Uuid.ofText?_eq_some_iff s _).1 hs⟩
  · have hfield : Known.find? known "status" = some (knownStatus "status") := rfl
    obtain ⟨m, honly, s, hs, heq⟩ := hgathers.present hfield hstatus
    cases heq
    exact ⟨m, honly, hs⟩

/-- Members that spell a receipt can be taken in turn, and its values are found. -/
theorem Receipt.SpeltBy.addsAll {ms : List MemberText} {r : Receipt} (h : r.SpeltBy ms)
    (hms : ∀ m ∈ ms, Spelt m.item.value) : ∃ found, AddsAll known [] ms found ∧
      found.get? "payment_id" = some (.id r.paymentId) ∧
      found.get? "status" = some (.status r.status) := by
  obtain ⟨hnames, ⟨m, hm, s, hspells, hs⟩, m', hm', hstatus⟩ := h
  have hid : (knownId "payment_id").denotes m.item.value (.id r.paymentId) :=
    ⟨_, ⟨s, hspells, (Uuid.ofText?_eq_some_iff s _).2 hs⟩, rfl⟩
  have hstatus : (knownStatus "status").denotes m'.item.value (.status r.status) :=
    ⟨_, hstatus, rfl⟩
  have honly {name : String} {m m₀ : MemberText} (hm : membersNamed ms name = [m]) (hm₀ : m₀ ∈ ms)
      (hname : spelled? m₀.name = some name) : m₀ = m := by
    have hmem : m₀ ∈ membersNamed ms name := List.mem_filter.2 ⟨hm₀, by simpa using hname⟩
    rwa [hm, List.mem_singleton] at hmem
  obtain ⟨found, hall⟩ : ∃ found, AddsAll known [] ms found := by
    refine exists_addsAll [] ?_
    intro m₀ hm₀
    obtain ⟨name, hname⟩ := hnames m₀ hm₀
    refine ⟨name, hname, ?_⟩
    intro field hfield
    obtain ⟨rfl, rfl⟩ | ⟨rfl, rfl⟩ := find?_known hfield
    · obtain rfl := honly hm hm₀ hname
      exact ⟨rfl, hm, _, hid⟩
    · obtain rfl := honly hm' hm₀ hname
      exact ⟨rfl, hm', _, hstatus⟩
  have hgathers : Gathers known ms found := hall.gathers gathers_nil
  have hspelt {name : String} {m : MemberText} (hm : membersNamed ms name = [m]) :
      Spelt m.item.value :=
    hms m (List.mem_of_mem_filter (by rw [← membersNamed, hm]; exact List.mem_singleton_self m))
  exact ⟨found, hall, hgathers.get?_eq rfl hm (hspelt hm) hid,
    hgathers.get?_eq rfl hm' (hspelt hm') hstatus⟩

/-- An object is read as a receipt exactly if its members spell it and only blanks follow. -/
theorem Receipt.decode_objectText (lead inner : Gap) {ms : List MemberText}
    (hms : ∀ m ∈ ms, Spelt m.item.value) (tail : List Char) (r : Receipt) :
    decode ((lead.chars ++ objectText inner ms ++ tail).map some) = .ok r
      ↔ r.SpeltBy ms ∧ ∀ c ∈ tail, isGap (some c) = true := by
  have hglyphs : (lead.chars ++ objectText inner ms ++ tail).map some
      = lead.glyphs ++ ((objectText inner ms).map some ++ tail.map some) := by
    simp [Gap.glyphs]
  simp only [decode_eq_ok_iff_found, hglyphs, readAll_readRecord_eq_ok_iff _ _ _ hms]
  constructor
  · rintro ⟨found, ⟨hall, hblank⟩, hid, hstatus⟩
    exact ⟨speltBy_of_addsAll hall hid hstatus, hblank⟩
  · rintro ⟨hspelt, hblank⟩
    obtain ⟨found, hall, hid, hstatus⟩ := hspelt.addsAll hms
    exact ⟨found, ⟨hall, hblank⟩, hid, hstatus⟩

/-- What may be wrong with an object that is no receipt, and with what follows it. -/
inductive Receipt.Flawed (ms : List MemberText) (tail : List Char) : Prop
  /-- The name of a member spells nothing. -/
  | nameless {m : MemberText} (hm : m ∈ ms) (hname : spelled? m.name = none)
  /-- A member of a receipt is missing, or there more than once. -/
  | count {name : String} (hname : name = "payment_id" ∨ name = "status")
      (hcount : (membersNamed ms name).length ≠ 1)
  /-- A value is no identifier. -/
  | id {m : MemberText} (hm : m ∈ membersNamed ms "payment_id")
      (hid : ∀ s u, Says m.item.value s → ¬ Uuid.Spells s.toList u)
  /-- A value is no status. -/
  | status {m : MemberText} (hm : m ∈ membersNamed ms "status")
      (hstatus : ∀ s : Status, ¬ s.SpeltAs m.item.value)
  /-- Something other than blanks follows. -/
  | trailing {c : Char} (hc : c ∈ tail) (hgap : isGap (some c) = false)

/-- An object spells a receipt and is followed by blanks, or one of the flaws is there. -/
theorem Receipt.flawed_iff (ms : List MemberText) (tail : List Char) :
    Flawed ms tail ↔ ∀ r : Receipt, ¬ (r.SpeltBy ms ∧ ∀ c ∈ tail, isGap (some c) = true) := by
  constructor
  · rintro hflaw r ⟨⟨hnames, ⟨m, hm, s, hspells, hs⟩, m', hm', hstatus⟩, hblank⟩
    cases hflaw with
    | nameless hm hname =>
      obtain ⟨name, hsome⟩ := hnames _ hm
      rw [hname] at hsome
      cases hsome
    | count hname hcount =>
      obtain rfl | rfl := hname
      · exact hcount (by rw [hm]; rfl)
      · exact hcount (by rw [hm']; rfl)
    | id hmem hid =>
      rw [hm, List.mem_singleton] at hmem
      subst hmem
      exact hid s _ hspells hs
    | status hmem hno =>
      rw [hm', List.mem_singleton] at hmem
      subst hmem
      exact hno _ hstatus
    | trailing hc hgap =>
      rw [hblank _ hc] at hgap
      cases hgap
  · intro hnone
    by_contra hflaw
    have honly {name : String} (hname : name = "payment_id" ∨ name = "status") :
        ∃ m, membersNamed ms name = [m] := by
      by_contra hno
      exact hflaw (.count hname fun hcount => hno (List.length_eq_one_iff.1 hcount))
    obtain ⟨m, hm⟩ := honly (.inl rfl)
    obtain ⟨m', hm'⟩ := honly (.inr rfl)
    obtain ⟨s, u, hspells, hs⟩ : ∃ s u, Says m.item.value s ∧ Uuid.Spells s.toList u := by
      by_contra hno
      exact hflaw (.id (by rw [hm]; exact List.mem_singleton_self m)
        fun s u hspells hs => hno ⟨s, u, hspells, hs⟩)
    obtain ⟨status, hstatus⟩ : ∃ s : Status, s.SpeltAs m'.item.value := by
      by_contra hno
      exact hflaw (.status (by rw [hm']; exact List.mem_singleton_self m')
        fun s hs => hno ⟨s, hs⟩)
    refine hnone ⟨u, status⟩ ⟨⟨?_, ⟨m, hm, s, hspells, hs⟩, m', hm', hstatus⟩, ?_⟩
    · intro m hm
      cases hname : spelled? m.name with
      | none => exact absurd (.nameless hm hname) hflaw
      | some name => exact ⟨name, rfl⟩
    · intro c hc
      cases hgap : isGap (some c) with
      | true => rfl
      | false => exact absurd (.trailing hc hgap) hflaw

/-! ## The text of a receipt -/

/-- A text is written as it is if nothing in it has to be escaped. -/
theorem Json.quote_eq {s : String} (h : ∀ c ∈ s.toList, c ≠ '"' ∧ c ≠ '\\' ∧ 32 ≤ c.toNat) :
    quote s = '"' :: s.toList ++ ['"'] := by
  have hescape : ∀ c ∈ s.toList, escape c = [c] := by
    intro c hc
    obtain ⟨hquote, hslash, hcontrol⟩ := h c hc
    have hne (d : Char) (hd : d.toNat < 32) : c ≠ d := by
      rintro rfl
      omega
    simp [escape, hquote, hslash, hne '\x08' (by decide), hne '\x0c' (by decide),
      hne '\n' (by decide), hne '\r' (by decide), hne '\t' (by decide), Nat.not_lt.2 hcontrol]
  rw [quote, List.flatMap_congr hescape, List.flatMap_singleton']

/-- Nothing in the text of an identifier has to be escaped. -/
theorem Uuid.plain_text (u : Uuid) :
    ∀ c ∈ u.text.toList, c ≠ '"' ∧ c ≠ '\\' ∧ 32 ≤ c.toNat := by
  have hdigit (w n : Nat) : ∀ c ∈ Hex.fixed w n, c ≠ '"' ∧ c ≠ '\\' ∧ 32 ≤ c.toNat := by
    have hall : ∀ d < 16, Hex.digitChar d ≠ '"' ∧ Hex.digitChar d ≠ '\\' ∧
        32 ≤ (Hex.digitChar d).toNat := by decide
    induction w generalizing n with
    | zero => simp [Hex.fixed]
    | succ w ih =>
      intro c hc
      rw [Hex.fixed, List.mem_append, List.mem_singleton] at hc
      obtain hc | rfl := hc
      · exact ih _ c hc
      · exact hall _ (Nat.mod_lt n (by decide))
  intro c hc
  rw [text, String.toList_ofList, chars] at hc
  obtain hc | rfl := mem_hyphenate hc
  · exact hdigit _ _ c hc
  · decide

/-- The text that a receipt is written as. -/
theorem Receipt.render_toJson (r : Receipt) :
    r.toJson.render = "\x7b\"payment_id\":\"" ++ r.paymentId.text ++ "\",\"status\":\""
      ++ r.status.name ++ "\"\x7d" := by
  have hid := Json.quote_eq r.paymentId.plain_text
  have hstatus : quote r.status.name = '"' :: r.status.name.toList ++ ['"'] := by
    cases r.status <;> decide
  apply String.toList_inj.1
  rw [Value.render, String.toList_ofList, Receipt.toJson, Status.toJson, chars_object]
  have hkeys : quote "payment_id" = "\"payment_id\"".toList ∧
      quote "status" = "\"status\"".toList := by decide
  simp [furtherChars, Value.chars, hid, hstatus, hkeys]

end PayOnce
