import PayOnce.Payment.Payload
import PayOnce.Proofs.Json.Extract
import PayOnce.Proofs.Json.Parser
import PayOnce.Proofs.Payment.Receipt
import PayOnce.Proofs.Time.Reader
/-!
Events survive the outbox. The row of an event tells its kind, and the event is read back from the
payload, from the value and from its text alike, whatever the order of the members; nothing is lost
of its identifier, its amount and its texts, and of its time only where in a minute a leap second
lies.
-/

namespace PayOnce

open Json

/-! ## Fields that are written and read back -/

namespace FieldValue

/-- The JSON form of the value of a field. -/
def toJson : FieldValue → Value
  | text s => .text s
  | int n => .int n
  | id u => .text u.text
  | status s => s.toJson
  | time t => .text t.text

/-- A value that its JSON form tells: a whole number of 64 bits, an instant in no leap second inside
    a minute, or any other value. -/
def Told : FieldValue → Prop
  | int n => inInt64 n = true
  | time t => t.Representable ∧ t.LeapEndsMinute
  | _ => True

theorem within_toJson {x : FieldValue} (h : x.Told) (depth : Nat) :
    x.toJson.Within depth := by
  cases x with
  | text s => cases depth <;> trivial
  | int n =>
    have hbounds := (inInt64_iff n).1 h
    cases depth <;> exact ⟨hbounds.1, by omega⟩
  | id u => cases depth <;> trivial
  | status s => cases depth <;> trivial
  | time t => cases depth <;> trivial

end FieldValue

/-- A field and a slot of one name for the values of one type. -/
inductive SameField : Member FieldValue → Slot FieldValue → FieldValue → Prop
  | text (name : String) (s : String) : SameField (textField name) (textSlot name) (.text s)
  | int (name : String) (n : Int) : SameField (intField name) (intSlot name) (.int n)
  | id (name : String) (u : Uuid) : SameField (idField name) (idSlot name) (.id u)
  | time (name : String) (t : Instant) : SameField (timeField name) (timeSlot name) (.time t)

/-- A field reads a value that is written, where the object goes on or ends behind it. -/
theorem SameField.read {field : Member FieldValue} {slot : Slot FieldValue} {x : FieldValue}
    (h : SameField field slot x) (hx : x.Told) {c : Char} (hc : c = ',' ∨ c = '}')
    (cs : Glyphs) :
    field.read (x.toJson.chars.map some ++ some c :: cs) = .ok (x, some c :: cs) := by
  cases h with
  | text name s =>
    simp only [textField, fieldReader, FieldValue.toJson, Value.chars, readText_quote]
  | int name n =>
    have hread := readInt64_intChars hx (.of_delimited (Value.delimited_cons (.inr rfl) hc cs))
    simp only [intField, fieldReader, FieldValue.toJson, Value.chars, hread]
  | id name u =>
    simp only [idField, fieldReader, FieldValue.toJson, Value.chars,
      readSpelled_quote _ u.ofText?_text]
  | time name t =>
    have hread := Instant.Representable.ofText?_text_self hx.1 hx.2
    simp only [timeField, fieldReader, FieldValue.toJson, Value.chars, readSpelled_quote _ hread]

/-- A slot takes the JSON form of a value for that value. -/
theorem SameField.take {field : Member FieldValue} {slot : Slot FieldValue} {x : FieldValue}
    (h : SameField field slot x) (hx : x.Told) : slot.take x.toJson = .ok x := by
  cases h with
  | text name s => rfl
  | int name n =>
    have hn : inInt64 n = true := hx
    simp only [intSlot, fieldSlot, FieldValue.toJson, takeInt64, if_pos hn]
  | id name u =>
    simp only [idSlot, fieldSlot, FieldValue.toJson, takeSpelled, takeText, u.ofText?_text]
  | time name t =>
    have hread := Instant.Representable.ofText?_text_self hx.1 hx.2
    simp only [timeSlot, fieldSlot, FieldValue.toJson, takeSpelled, takeText, hread]

theorem EventKind.name_inj {k l : EventKind} : k.name = l.name ↔ k = l := by
  cases k <;> cases l <;> decide

namespace PaymentEvent

/-! ## The fields of an event -/

/-- The values of an event's fields, in the order of its JSON form. -/
def fieldValues : PaymentEvent → Found FieldValue
  | initiated id orderId amount currency t =>
    [("payment_id", .id id), ("order_id", .text orderId), ("amount", .int amount),
      ("currency", .text currency), ("occurred_at", .time t)]
  | processingStarted id providerRef t =>
    [("payment_id", .id id), ("provider_ref", .text providerRef), ("occurred_at", .time t)]
  | completed id t => [("payment_id", .id id), ("occurred_at", .time t)]
  | failed id reason t =>
    [("payment_id", .id id), ("reason", .text reason), ("occurred_at", .time t)]

/-- The amount that an event tells. -/
def amount? : PaymentEvent → Option Int
  | initiated _ _ amount _ _ => some amount
  | _ => none

/-- An event whose amount has 64 bits and whose time a timestamp can hold. -/
structure Representable (e : PaymentEvent) : Prop where
  amount : ∀ amount ∈ e.amount?, inInt64 amount = true
  occurredAt : e.occurredAt.Representable

/-- An event that its JSON form tells: its time lies in no leap second inside a minute. -/
structure Told (e : PaymentEvent) : Prop extends e.Representable where
  leap : e.occurredAt.LeapEndsMinute

/-- A member of an event's JSON form. -/
def member (x : String × FieldValue) : String × Value :=
  (x.1, x.2.toJson)

theorem toJson_eq (e : PaymentEvent) : e.toJson = .object (e.fieldValues.map member) := by
  cases e <;> rfl

theorem nodup_fieldValues (e : PaymentEvent) : (e.fieldValues.map (·.1)).Nodup := by
  cases e <;> simp [fieldValues]

theorem ofFields_fieldValues (e : PaymentEvent) : ofFields e.kind e.fieldValues = some e := by
  cases e <;> rfl

/-- An event is made of what was found for the names, in whatever order it was found. -/
theorem ofFields_congr (kind : EventKind) {found found' : Found FieldValue}
    (h : ∀ name, found.get? name = found'.get? name) :
    ofFields kind found = ofFields kind found' := by
  simp only [ofFields, h]

/-- Every value of an event has a field to read it and a slot to take it. -/
theorem exists_sameField {e : PaymentEvent} (h : e.Told) {x : String × FieldValue}
    (hx : x ∈ e.fieldValues) : x.2.Told ∧ ∃ field slot,
      (fields e.kind).find? (·.name == x.1) = some field ∧
      (slots e.kind).find? (·.name == x.1) = some slot ∧ SameField field slot x.2 := by
  have hamount := h.amount
  have htime := And.intro h.occurredAt h.leap
  cases e with
  | initiated id orderId amount currency t =>
    simp only [fieldValues, List.mem_cons, List.not_mem_nil, or_false] at hx
    obtain rfl | rfl | rfl | rfl | rfl := hx
    · exact ⟨trivial, _, _, rfl, rfl, .id "payment_id" id⟩
    · exact ⟨trivial, _, _, rfl, rfl, .text "order_id" orderId⟩
    · exact ⟨hamount amount rfl, _, _, rfl, rfl, .int "amount" amount⟩
    · exact ⟨trivial, _, _, rfl, rfl, .text "currency" currency⟩
    · exact ⟨htime, _, _, rfl, rfl, .time "occurred_at" t⟩
  | processingStarted id providerRef t =>
    simp only [fieldValues, List.mem_cons, List.not_mem_nil, or_false] at hx
    obtain rfl | rfl | rfl := hx
    · exact ⟨trivial, _, _, rfl, rfl, .id "payment_id" id⟩
    · exact ⟨trivial, _, _, rfl, rfl, .text "provider_ref" providerRef⟩
    · exact ⟨htime, _, _, rfl, rfl, .time "occurred_at" t⟩
  | completed id t =>
    simp only [fieldValues, List.mem_cons, List.not_mem_nil, or_false] at hx
    obtain rfl | rfl := hx
    · exact ⟨trivial, _, _, rfl, rfl, .id "payment_id" id⟩
    · exact ⟨htime, _, _, rfl, rfl, .time "occurred_at" t⟩
  | failed id reason t =>
    simp only [fieldValues, List.mem_cons, List.not_mem_nil, or_false] at hx
    obtain rfl | rfl | rfl := hx
    · exact ⟨trivial, _, _, rfl, rfl, .id "payment_id" id⟩
    · exact ⟨trivial, _, _, rfl, rfl, .text "reason" reason⟩
    · exact ⟨htime, _, _, rfl, rfl, .time "occurred_at" t⟩

/-! ## Events that are read back -/

/-- Members of an event's JSON form in another order are members of its fields in another order. -/
theorem exists_map_member {e : PaymentEvent} {ms : List (String × Value)}
    (h : ms.Perm (e.fieldValues.map member)) :
    ∃ xs : Found FieldValue, ms = xs.map member ∧ xs.Perm e.fieldValues := by
  have hcomp := congrFun (congrFun (List.eq_map_comp_perm member) ms) e.fieldValues
  exact hcomp.mpr h

theorem nodup_of_perm {e : PaymentEvent} {xs : Found FieldValue} (h : xs.Perm e.fieldValues) :
    ((xs.map member).map (·.1)).Nodup := by
  have hkeys : (xs.map member).map (·.1) = xs.map (·.1) := by simp [member]
  rw [hkeys, (h.map _).nodup_iff]
  exact nodup_fieldValues e

/-- The fields that were found in any order make the event. -/
theorem ofFields_of_perm {e : PaymentEvent} {xs : Found FieldValue} (h : xs.Perm e.fieldValues) :
    ofFields e.kind xs.reverse = some e := by
  have hperm : e.fieldValues.Perm xs.reverse := h.symm.trans xs.reverse_perm.symm
  rw [← ofFields_congr e.kind (Found.get?_perm hperm (nodup_fieldValues e)), ofFields_fieldValues]

/-- An event is read back from its payload, whatever the order of the members. -/
theorem ofPayload_of_perm {e : PaymentEvent} (he : e.Told) {xs : Found FieldValue}
    (h : xs.Perm e.fieldValues) : ofPayload e.kind (.object (xs.map member)) = .ok e := by
  have htakes : List.Forall₂ (fun m x => m.1 = x.1 ∧ Takes (slots e.kind) m x.2)
      (xs.map member) xs := by
    rw [List.forall₂_map_left_iff, List.forall₂_same]
    intro x hx
    obtain ⟨htold, field, slot, -, hslot, hsame⟩ := exists_sameField he (h.mem_iff.1 hx)
    exact ⟨rfl, slot, hslot, hsame.take htold⟩
  have htaken := takeRecord_object "a payment event" htakes (nodup_of_perm h)
  simp only [ofPayload, htaken, ofFields_of_perm h]

/-- An event is read back from its text, whatever the order of the members. -/
theorem decode_of_perm {e : PaymentEvent} (he : e.Told) {xs : Found FieldValue}
    (h : xs.Perm e.fieldValues) :
    decode e.kind (glyphsOf (Value.object (xs.map member)).render) = .ok e := by
  have hreads : List.Forall₂ (fun m x => m.1 = x.1 ∧ ReadsBack (fields e.kind) m x.2)
      (xs.map member) xs := by
    rw [List.forall₂_map_left_iff, List.forall₂_same]
    intro x hx
    obtain ⟨htold, field, slot, hfield, -, hsame⟩ := exists_sameField he (h.mem_iff.1 hx)
    exact ⟨rfl, field, hfield, fun c cs hc => hsame.read htold hc cs⟩
  have hkeys := nodup_of_perm h
  have hmade := ofFields_of_perm h
  cases xs with
  | nil =>
    have hempty := h.length_eq
    cases e <;> simp [fieldValues] at hempty
  | cons x xs =>
    have hread := readAll_object "a payment event" hreads hkeys
    rw [← List.reverse_cons] at hread
    rw [List.map_cons]
    simp only [decode, decodeRecord, hread, hmade]

/-- The value of an event's JSON form is read back from its text. -/
theorem parse_of_perm {e : PaymentEvent} (he : e.Told) {xs : Found FieldValue}
    (h : xs.Perm e.fieldValues) :
    Value.parse (glyphsOf (Value.object (xs.map member)).render)
      = .ok (.object (xs.map member)) := by
  refine Value.parse_render ⟨nodup_of_perm h, ?_⟩
  intro m hm
  obtain ⟨x, hx, rfl⟩ := List.mem_map.1 hm
  exact FieldValue.within_toJson (exists_sameField he (h.mem_iff.1 hx)).1 _

/-! ## Events as they are read back -/

/-- The event at the instant that the text of its time tells. -/
def settled : PaymentEvent → PaymentEvent
  | initiated id orderId amount currency t => initiated id orderId amount currency t.settled
  | processingStarted id providerRef t => processingStarted id providerRef t.settled
  | completed id t => completed id t.settled
  | failed id reason t => failed id reason t.settled

@[simp] theorem kind_settled (e : PaymentEvent) : e.settled.kind = e.kind := by
  cases e <;> rfl

@[simp] theorem amount?_settled (e : PaymentEvent) : e.settled.amount? = e.amount? := by
  cases e <;> rfl

@[simp] theorem occurredAt_settled (e : PaymentEvent) :
    e.settled.occurredAt = e.occurredAt.settled := by
  cases e <;> rfl

theorem settled_eq_self_iff {e : PaymentEvent} :
    e.settled = e ↔ e.occurredAt.LeapEndsMinute := by
  rw [← Instant.settled_eq_self_iff]
  cases e <;> simp [settled, occurredAt]

/-- An event is written like the event that it is read back as. -/
theorem Representable.toJson_settled {e : PaymentEvent} (h : e.Representable) :
    e.settled.toJson = e.toJson := by
  have htext := h.occurredAt.text_settled
  cases e <;> simp only [settled, toJson, PaymentEvent.occurredAt] at htext ⊢ <;> rw [htext]

theorem Representable.told_settled {e : PaymentEvent} (h : e.Representable) : e.settled.Told where
  amount := by simpa using h.amount
  occurredAt := by simpa using h.occurredAt.settled
  leap := by simpa using h.occurredAt.leapEndsMinute_settled

/-- An event is read back from its payload and from its text, settled, whatever the order of the
    members. -/
theorem Representable.read_back {e : PaymentEvent} (h : e.Representable)
    {members ms : List (String × Value)} (hjson : e.toJson = .object members)
    (hms : ms.Perm members) :
    ofPayload e.kind (.object ms) = .ok e.settled ∧
      decode e.kind (glyphsOf (Value.object ms).render) = .ok e.settled ∧
      Value.parse (glyphsOf (Value.object ms).render) = .ok (.object ms) := by
  -- The members are those of the event that is read back, since the two are written alike.
  have hsame := (toJson_eq e.settled).symm.trans (h.toJson_settled.trans hjson)
  rw [← Value.object.inj hsame] at hms
  obtain ⟨xs, rfl, hxs⟩ := exists_map_member hms
  have htold := h.told_settled
  rw [← kind_settled e]
  exact ⟨ofPayload_of_perm htold hxs, decode_of_perm htold hxs, parse_of_perm htold hxs⟩

/-! ## The outbox -/

/-- Every event survives the outbox. Its row tells which kind it was and names the payment; the
    payload is what its text spells, in whatever order the members stand, and tells the payment and
    the time of the event; and the event is read back from the payload and from the text of it.
    What is read back is the event itself, unless its time lies in a leap second inside a minute:
    such a time is read as one of the second behind it. -/
theorem survives_outbox (e : PaymentEvent) (h : e.Representable) :
    ∃ row members, OutboxRow.ofEvent e = .ok row ∧ row.payload = .object members ∧
      e.toJson = .object members ∧ row.aggregateId = e.paymentId ∧ row.occurredAt = e.occurredAt ∧
      (∀ kind : EventKind, row.eventType = kind.name ↔ kind = e.kind) ∧
      (∃ id time, List.lookup "payment_id" members = some (.text id) ∧
        Uuid.ofText? id = some row.aggregateId ∧
        List.lookup "occurred_at" members = some (.text time) ∧
        Instant.ofText? time = some e.settled.occurredAt) ∧
      (∀ ms : List (String × Value), ms.Perm members →
        ofPayload e.kind (.object ms) = .ok e.settled ∧
        decode e.kind (glyphsOf (Value.object ms).render) = .ok e.settled ∧
        Value.parse (glyphsOf (Value.object ms).render) = .ok (.object ms)) ∧
      (e.settled = e ↔ (e.occurredAt.nanos ≥ 1000000000 → e.occurredAt.secs % 60 = 59)) := by
  refine ⟨⟨e.paymentId, e.kind.name, e.toJson, e.occurredAt⟩, e.fieldValues.map member, rfl,
    toJson_eq e, toJson_eq e, rfl, rfl, ?_, ?_, ?_, settled_eq_self_iff⟩
  · intro kind
    rw [EventKind.name_inj, eq_comm]
  · rw [occurredAt_settled]
    refine ⟨e.paymentId.text, e.occurredAt.text, ?_, e.paymentId.ofText?_text, ?_,
      h.occurredAt.ofText?_text⟩
    · cases e <;> rfl
    · cases e <;> rfl
  · intro ms hms
    exact h.read_back (toJson_eq e) hms

/-- An event with the least amount, texts that have to be escaped, and a leap second long before the
    year zero. -/
def odd : PaymentEvent :=
  .initiated ⟨0xFFFFFFFFFFFF4FFF8FFF000000000001⟩ "say \"1\"\n\x00 \u2028 😀" (-9223372036854775808)
    "" ⟨-62198755201, 1999999999⟩

/-- An odd event is read back from its text and from its payload with the members the other way
    round. -/
theorem survives_outbox_odd :
    odd.Representable ∧ ∃ row members, OutboxRow.ofEvent odd = .ok row ∧
      row.payload = .object members ∧ row.eventType = "payment.initiated" ∧
      ofPayload .initiated (.object members.reverse) = .ok odd ∧
      decode .initiated (glyphsOf odd.toJson.render) = .ok odd := by
  have hodd : odd.Representable := by
    refine ⟨?_, by decide, by decide⟩
    intro amount hamount
    cases hamount
    decide
  obtain ⟨row, members, hrow, hpayload, hjson, -, -, hkind, -, hback, hself⟩ :=
    survives_outbox odd hodd
  rw [hself.2 (by decide)] at hback
  refine ⟨hodd, row, members, hrow, hpayload, (hkind .initiated).2 rfl,
    (hback members.reverse members.reverse_perm).1, ?_⟩
  rw [hjson]
  exact (hback members (.refl members)).2.1

/-- A payment that was completed in a leap second inside a minute. -/
def inLeapSecond : PaymentEvent :=
  .completed ⟨1⟩ ⟨4, 1500000000⟩

/-- Not every event is read back as it was: of a leap second inside a minute the text tells the
    second behind it. -/
theorem inner_leap_second_lost :
    ¬ ∀ e : PaymentEvent, e.Representable →
      ofPayload e.kind e.toJson = .ok e ∧ decode e.kind (glyphsOf e.toJson.render) = .ok e := by
  intro hall
  have hrepresentable : inLeapSecond.Representable := by
    refine ⟨?_, by decide, by decide⟩
    intro amount hamount
    cases hamount
  have hread := (hall inLeapSecond hrepresentable).2
  -- It is read back half a second into second 5.
  have hback := (hrepresentable.read_back rfl (.refl _)).2.1
  have hsame : inLeapSecond.settled = inLeapSecond := Except.ok.inj (hback.symm.trans hread)
  exact absurd hsame (by decide)

end PaymentEvent

end PayOnce
