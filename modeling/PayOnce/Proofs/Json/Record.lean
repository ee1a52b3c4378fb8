import PayOnce.Json.Record
import PayOnce.Proofs.Json.Strings
import Mathlib.Data.List.Forall2
/-!
Records that are written as objects are read back, if each of their values is.
-/

namespace PayOnce.Json

variable {V : Type}

theorem skipGaps_cons {c : Char} (h : isGap (some c) = false) (cs : Glyphs) :
    skipGaps (some c :: cs) = some c :: cs := by
  simp [skipGaps, h]

/-- The members of an object behind one of them, up to and with the closing brace. -/
def furtherChars : List (String × Value) → List Char
  | [] => ['}']
  | (k, v) :: ms => ',' :: quote k ++ ':' :: v.chars ++ furtherChars ms

theorem chars_object (k : String) (v : Value) (ms : List (String × Value)) :
    (Value.object ((k, v) :: ms)).chars
      = '{' :: quote k ++ ':' :: v.chars ++ furtherChars ms := by
  rw [Value.chars]
  induction ms generalizing k v with
  | nil => simp [Value.memberChars, furtherChars]
  | cons m ms ih =>
    have h := ih m.1 m.2
    simp only [List.cons_append, List.cons.injEq, true_and] at h ⊢
    rw [Value.memberChars, List.append_assoc, List.cons_append, h]
    simp [furtherChars]

theorem furtherChars_eq_cons (ms : List (String × Value)) :
    ∃ c cs, (c = ',' ∨ c = '}') ∧ furtherChars ms = c :: cs := by
  cases ms with
  | nil => exact ⟨'}', [], .inr rfl, rfl⟩
  | cons m ms => exact ⟨',', _, .inl rfl, rfl⟩

theorem length_lt_furtherChars (ms : List (String × Value)) :
    ms.length < (furtherChars ms).length := by
  induction ms with
  | nil => simp [furtherChars]
  | cons m ms ih =>
    simp only [furtherChars, List.length_append, List.length_cons]
    omega

/-- A field of a record reads a written value, where the object goes on or ends behind it. -/
def ReadsBack (fields : List (Member V)) (m : String × Value) (x : V) : Prop :=
  ∃ field, fields.find? (·.name == m.1) = some field ∧
    ∀ c cs, c = ',' ∨ c = '}' →
      field.read (m.2.chars.map some ++ some c :: cs) = .ok (x, some c :: cs)

theorem readMember_written {fields : List (Member V)} {found : Found V} {k : String} {v : Value}
    {x : V} (hread : ReadsBack fields (k, v) x) (hnew : found.get? k = none)
    (ms : List (String × Value)) (cs : Glyphs) :
    readMember fields found
        ((k.toList.flatMap escape ++ ['"'] ++ ':' :: v.chars ++ furtherChars ms).map some ++ cs)
      = .ok ((k, x) :: found, (furtherChars ms).map some ++ cs) := by
  obtain ⟨field, hfield, hvalue⟩ := hread
  -- A value has to know what comes behind it, a comma or the closing brace.
  obtain ⟨c, ds, hc, hms⟩ := furtherChars_eq_cons ms
  have hname : readString .plain []
      ((k.toList.flatMap escape ++ ['"'] ++ ':' :: v.chars ++ furtherChars ms).map some ++ cs)
        = some (k, (':' :: v.chars ++ furtherChars ms).map some ++ cs) := by
    rw [← readString_quote]
    simp
  have hcolon : readColon ((':' :: v.chars ++ furtherChars ms).map some ++ cs)
      = some ((v.chars ++ furtherChars ms).map some ++ cs) := by
    simp only [readColon, List.cons_append, List.map_cons]
    rw [skipGaps_cons (by decide)]
    rfl
  have hrest : (v.chars ++ furtherChars ms).map some ++ cs
      = v.chars.map some ++ some c :: (ds.map some ++ cs) := by
    simp [hms]
  unfold readMember
  simp only [hname, hfield, hnew, Option.isSome_none, Bool.false_eq_true, if_false, hcolon, readAt,
    hrest, hvalue c _ hc]
  simp [hms]

/-- A name that is new among other names is new beside one more of them. -/
theorem get?_eq_none_of_nodup {found : Found V} {m : String × Value} {ms : List (String × Value)}
    (hkeys : ((m :: ms).map (·.1)).Nodup) (hnew : ∀ m' ∈ ms, found.get? m'.1 = none) (x : V) :
    ∀ m' ∈ ms, Found.get? ((m.1, x) :: found) m'.1 = none := by
  intro m' hm'
  rw [List.map_cons, List.nodup_cons] at hkeys
  have hne : m'.1 ≠ m.1 := by
    intro heq
    exact hkeys.1 (List.mem_map.2 ⟨m', hm', heq⟩)
  rw [Found.get?, List.lookup_cons, beq_eq_false_iff_ne.2 hne]
  exact hnew m' hm'

/-- Further members that are written are all found. -/
theorem readMembers_further {fields : List (Member V)} {ms : List (String × Value)}
    {xs : Found V} (hread : List.Forall₂ (fun m x => m.1 = x.1 ∧ ReadsBack fields m x.2) ms xs)
    (hkeys : (ms.map (·.1)).Nodup) (found : Found V) (hnew : ∀ m ∈ ms, found.get? m.1 = none)
    (fuel : Nat) (hfuel : ms.length < fuel) (cs : Glyphs) :
    readMembers fields fuel false found ((furtherChars ms).map some ++ cs)
      = .ok (xs.reverse ++ found, cs) := by
  -- By induction on the members: each one is found under a name that is new.
  induction hread generalizing found fuel with
  | nil =>
    obtain ⟨fuel, rfl⟩ : ∃ n, fuel = n + 1 := ⟨fuel - 1, by simp at hfuel; omega⟩
    simp only [furtherChars, List.map_cons, List.map_nil, List.cons_append, List.nil_append,
      readMembers]
    rw [skipGaps_cons (by decide)]
    rfl
  | @cons m x ms xs hmx _ ih =>
    obtain ⟨hk, hx⟩ := hmx
    obtain ⟨fuel, rfl⟩ : ∃ n, fuel = n + 1 := ⟨fuel - 1, by simp at hfuel; omega⟩
    have hmember := readMember_written hx (hnew m List.mem_cons_self) ms cs
    have hnew' := get?_eq_none_of_nodup hkeys
      (fun m' hm' => hnew m' (List.mem_cons_of_mem _ hm')) x.2
    have hih := ih (List.nodup_cons.1 hkeys).2 ((m.1, x.2) :: found) hnew' fuel
      (by simpa using hfuel)
    have hxm : x = (m.1, x.2) := Prod.ext hk.symm rfl
    simp only [List.append_assoc, List.cons_append, List.nil_append] at hmember
    simp only [furtherChars, quote, List.cons_append, List.map_cons, readMembers]
    rw [skipGaps_cons (by decide)]
    simp only
    rw [skipGaps_cons (by decide)]
    simp only [List.append_assoc, List.cons_append, List.nil_append, hmember, hih]
    rw [List.reverse_cons, List.append_assoc, List.singleton_append, ← hxm]

/-- A record is read back from the object that it is written as. -/
theorem readAll_object (shape : String) {fields : List (Member V)} {m : String × Value}
    {ms : List (String × Value)} {x : String × V} {xs : Found V}
    (hread : List.Forall₂ (fun m x => m.1 = x.1 ∧ ReadsBack fields m x.2) (m :: ms) (x :: xs))
    (hkeys : ((m :: ms).map (·.1)).Nodup) :
    readAll (readRecord shape fields) (glyphsOf (Value.object (m :: ms)).render)
      = .ok (xs.reverse ++ [x]) := by
  obtain ⟨⟨hk, hx⟩, htail⟩ := List.forall₂_cons.1 hread
  have hempty (key : String) : Found.get? ([] : Found V) key = none := rfl
  have hmember := readMember_written hx (hempty m.1) ms []
  have hnew := get?_eq_none_of_nodup hkeys (fun m' _ => hempty m'.1) x.2
  have hxm : x = (m.1, x.2) := Prod.ext hk.symm rfl
  have hglyphs : glyphsOf (Value.object (m :: ms)).render
      = some '{' :: some '"' :: (m.1.toList.flatMap escape ++ ['"'] ++ ':' :: m.2.chars
        ++ furtherChars ms).map some := by
    rw [glyphsOf, Value.render, String.toList_ofList, chars_object]
    simp [quote]
  have hfuel : ms.length < (some '"' :: (m.1.toList.flatMap escape ++ ['"'] ++ ':' :: m.2.chars
      ++ furtherChars ms).map some).length := by
    have := length_lt_furtherChars ms
    simp only [List.length_cons, List.length_map, List.length_append]
    omega
  have hfurther := readMembers_further htail (List.nodup_cons.1 hkeys).2 _ hnew _ hfuel []
  rw [List.append_nil] at hmember hfurther
  rw [hglyphs, readAll, readRecord, skipGaps_cons (by decide)]
  simp only [readMembers]
  rw [skipGaps_cons (by decide)]
  simp only [hmember]
  rw [List.append_nil, hfurther, ← hxm]
  rfl

end PayOnce.Json
