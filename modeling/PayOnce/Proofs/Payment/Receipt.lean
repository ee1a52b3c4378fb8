import PayOnce.Payment.Decode
import PayOnce.Proofs.Json.Record
import PayOnce.Proofs.Uuid
/-!
A receipt is read back from the text that it is cached as.
-/

namespace PayOnce

open Json

theorem readText_quote (s : String) (cs : Glyphs) :
    readText ((quote s).map some ++ cs) = .ok (s, cs) := by
  simp only [readText, quote, List.cons_append, List.map_cons]
  rw [skipGaps_cons (by decide)]
  simp only [readString_quote, orMalformed]

theorem readSpelled_quote {α : Type} {spelled : String → Option α} (complaint : String → String)
    {s : String} {a : α} (h : spelled s = some a) (cs : Glyphs) :
    readSpelled spelled complaint ((quote s).map some ++ cs) = .ok (a, cs) := by
  simp only [readSpelled, readText_quote, bind, Except.bind, h]

theorem Status.ofName?_name (s : Status) : Status.ofName? s.name = some s := by
  cases s <;> decide

theorem Status.ofName?_eq_some_iff (t : String) (s : Status) : ofName? t = some s ↔ t = s.name := by
  constructor
  · intro h
    have hname := List.find?_some h
    exact (beq_iff_eq.1 hname).symm
  · rintro rfl
    exact s.ofName?_name

theorem readStatus_quote (s : Status) (cs : Glyphs) :
    readStatus ((quote s.name).map some ++ cs) = .ok (s, cs) := by
  rw [readStatus, ← readSpelled_quote statusComplaint s.ofName?_name cs]
  simp only [quote, List.cons_append, List.map_cons]
  rw [skipGaps_cons (by decide)]
  rfl

/-- A receipt is read back from its JSON text. -/
theorem Receipt.decode_render (r : Receipt) :
    Receipt.decode (glyphsOf r.toJson.render) = .ok r := by
  have hid : ReadsBack [idField "payment_id", statusField "status"]
      ("payment_id", .text r.paymentId.text) (.id r.paymentId) := by
    refine ⟨idField "payment_id", rfl, ?_⟩
    intro c cs _
    simp only [idField, fieldReader, Value.chars, readSpelled_quote _ r.paymentId.ofText?_text]
  have hstatus : ReadsBack [idField "payment_id", statusField "status"]
      ("status", .text r.status.name) (.status r.status) := by
    refine ⟨statusField "status", rfl, ?_⟩
    intro c cs _
    simp only [statusField, fieldReader, Value.chars, readStatus_quote]
  have hmembers : List.Forall₂
      (fun m x => m.1 = x.1 ∧ ReadsBack [idField "payment_id", statusField "status"] m x.2)
      [("payment_id", .text r.paymentId.text), ("status", .text r.status.name)]
      [("payment_id", .id r.paymentId), ("status", .status r.status)] :=
    .cons ⟨rfl, hid⟩ (.cons ⟨rfl, hstatus⟩ .nil)
  have hread := readAll_object "a receipt" hmembers (by simp)
  unfold Receipt.decode decodeRecord Receipt.toJson Status.toJson
  rw [hread]
  rfl

end PayOnce
