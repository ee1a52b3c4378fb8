import PayOnce.Json.Parser
import PayOnce.Proofs.Json.Number
import PayOnce.Proofs.Json.Record
/-!
Values that are written are read back, if their whole numbers fit into 64 bits, their objects have
each name once and not too many brackets stand inside each other.
-/

namespace PayOnce.Json.Value

open Text

/-- A value that can be read back with at most so many brackets inside each other. -/
def Within : Nat → Value → Prop
  | _, int n => -2 ^ 63 ≤ n ∧ n < 2 ^ 64
  | 0, list _ => False
  | 0, object _ => False
  | depth + 1, list items => ∀ v ∈ items, Within depth v
  | depth + 1, object members =>
    (members.map (·.1)).Nodup ∧ ∀ m ∈ members, Within depth m.2
  | _, _ => True

/-! ## How parts are written -/

section Parts

variable {α σ : Type} (close : Char) (write : α → List Char)

/-- Parts behind another part, up to and with the closing bracket. -/
def furtherParts : List α → List Char
  | [] => [close]
  | a :: as => ',' :: write a ++ furtherParts as

/-- Parts with commas between them, up to and with the closing bracket. -/
def allParts : List α → List Char
  | [] => [close]
  | a :: as => write a ++ furtherParts close write as

theorem furtherParts_eq_cons (as : List α) :
    ∃ c cs, (c = ',' ∨ c = close) ∧ furtherParts close write as = c :: cs := by
  cases as with
  | nil => exact ⟨close, [], .inr rfl, rfl⟩
  | cons a as => exact ⟨',', _, .inl rfl, rfl⟩

theorem length_lt_furtherParts (as : List α) :
    as.length < (furtherParts close write as).length := by
  induction as with
  | nil => simp [furtherParts]
  | cons a as ih =>
    simp only [furtherParts, List.length_append, List.length_cons]
    omega

theorem length_lt_allParts (as : List α) : as.length < (allParts close write as).length + 1 := by
  cases as with
  | nil => simp
  | cons a as =>
    have := length_lt_furtherParts close write as
    simp only [allParts, List.length_append, List.length_cons]
    omega

theorem chars_list (items : List Value) :
    (list items).chars = '[' :: allParts ']' chars items := by
  rw [chars]
  induction items with
  | nil => rfl
  | cons v items ih =>
    cases items with
    | nil => simp [itemChars, allParts, furtherParts]
    | cons w items =>
      simp only [List.cons_append, List.cons.injEq, true_and] at ih ⊢
      rw [itemChars, List.append_assoc, List.cons_append, ih]
      rfl

/-- A member of an object as it is written. -/
def memberText (m : String × Value) : List Char :=
  quote m.1 ++ ':' :: m.2.chars

theorem chars_object_parts (members : List (String × Value)) :
    (object members).chars = '{' :: allParts '}' memberText members := by
  cases members with
  | nil => rfl
  | cons m ms =>
    have hfurther (ms : List (String × Value)) :
        furtherChars ms = furtherParts '}' memberText ms := by
      induction ms with
      | nil => rfl
      | cons m ms ih => simp [furtherChars, furtherParts, memberText, ih]
    rw [chars_object, hfurther]
    simp [allParts, memberText]

end Parts

/-! ## How parts are read -/

section Parts

variable {α σ : Type} {close : Char} {write : α → List Char} {part : σ → Reader σ}
  {step : σ → α → σ} {as : List α}

/-- A part is written in characters that are neither blank nor a closing bracket at their start. -/
def Starts (close : Char) (cs : List Char) : Prop :=
  ∃ c ds, cs = c :: ds ∧ isGap (some c) = false ∧ c ≠ close

/-- A part is read where another one or the closing bracket follows. -/
def PartReads (close : Char) (part : σ → Reader σ) (step : σ → α → σ) (write : α → List Char)
    (a : α) : Prop :=
  ∀ made c cs, c = ',' ∨ c = close →
    part made ((write a).map some ++ some c :: cs) = .ok (step made a, some c :: cs)

theorem PartReads.further {a : α} (h : PartReads close part step write a) (as : List α) (made : σ)
    (cs : Glyphs) :
    part made ((write a ++ furtherParts close write as).map some ++ cs)
      = .ok (step made a, (furtherParts close write as).map some ++ cs) := by
  obtain ⟨c, ds, hc, hfurther⟩ := furtherParts_eq_cons close write as
  rw [hfurther]
  simpa using h made c (ds.map some ++ cs) hc

theorem readParts_further (hclose : close ≠ ',') (hgap : isGap (some close) = false)
    (hstarts : ∀ a ∈ as, Starts close (write a))
    (hreads : ∀ a ∈ as, PartReads close part step write a) (fuel : Nat)
    (hfuel : as.length < fuel) (made : σ) (cs : Glyphs) :
    readParts close part fuel false made ((furtherParts close write as).map some ++ cs)
      = .ok (as.foldl step made, cs) := by
  induction as generalizing fuel made with
  | nil =>
    obtain ⟨fuel, rfl⟩ : ∃ n, fuel = n + 1 := ⟨fuel - 1, by simp at hfuel; omega⟩
    simp only [furtherParts, List.map_cons, List.map_nil, List.cons_append, List.nil_append,
      readParts, skipGaps_cons hgap]
    rfl
  | cons a as ih =>
    obtain ⟨fuel, rfl⟩ : ∃ n, fuel = n + 1 := ⟨fuel - 1, by simp at hfuel; omega⟩
    obtain ⟨d, ds, hstart, hdgap, hdclose⟩ := hstarts a List.mem_cons_self
    have hpart := (hreads a List.mem_cons_self).further as made cs
    have hrest := ih (fun b hb => hstarts b (List.mem_cons_of_mem _ hb))
      (fun b hb => hreads b (List.mem_cons_of_mem _ hb)) fuel (by simpa using hfuel) (step made a)
    have hcomma : isGap (some ',') = false := by decide
    rw [hstart] at hpart
    simp only [List.cons_append, List.map_cons] at hpart
    simp only [furtherParts, hstart, List.cons_append, List.map_cons, readParts,
      skipGaps_cons hcomma, skipGaps_cons hdgap, if_neg hclose.symm, if_neg hdclose, if_true,
      Bool.false_eq_true, if_false, hpart, hrest, List.foldl_cons]

/-- Parts that are written are read back up to the closing bracket. -/
theorem readParts_all (hclose : close ≠ ',') (hgap : isGap (some close) = false)
    (hstarts : ∀ a ∈ as, Starts close (write a))
    (hreads : ∀ a ∈ as, PartReads close part step write a) (fuel : Nat)
    (hfuel : as.length < fuel) (made : σ) (cs : Glyphs) :
    readParts close part fuel true made ((allParts close write as).map some ++ cs)
      = .ok (as.foldl step made, cs) := by
  obtain ⟨fuel, rfl⟩ : ∃ n, fuel = n + 1 := ⟨fuel - 1, by omega⟩
  cases as with
  | nil =>
    simp only [allParts, List.map_cons, List.map_nil, List.cons_append, List.nil_append, readParts,
      skipGaps_cons hgap]
    rfl
  | cons a as =>
    obtain ⟨d, ds, hstart, hdgap, hdclose⟩ := hstarts a List.mem_cons_self
    have hpart := (hreads a List.mem_cons_self).further as made cs
    have hrest := readParts_further hclose hgap
      (fun b hb => hstarts b (List.mem_cons_of_mem _ hb))
      (fun b hb => hreads b (List.mem_cons_of_mem _ hb)) fuel (by simpa using hfuel) (step made a)
      cs
    rw [hstart] at hpart
    simp only [List.cons_append, List.map_cons] at hpart
    simp only [allParts, hstart, List.cons_append, List.map_cons, readParts, skipGaps_cons hdgap,
      if_neg hdclose, if_true, hpart, hrest, List.foldl_cons]

end Parts

/-! ## Values without brackets -/

theorem readScalar_int {n : Int} (hlow : -2 ^ 63 ≤ n) (hhigh : n < 2 ^ 64) {cs : Glyphs}
    (h : Delimited cs) : readScalar ((Decimal.intChars n).map some ++ cs) = .ok (int n, cs) := by
  have hread := Number.read_intChars hlow hhigh (.of_delimited h)
  obtain ⟨c, ds, hcons, hgap, hne⟩ := exists_intChars_eq_cons n
  rw [hcons, List.map_cons, List.cons_append] at hread ⊢
  have hhead {d : Char} {rest rest' : Glyphs} (heq : some c :: rest = some d :: rest') : c = d := by
    simpa using congrArg List.head? heq
  rw [readScalar, skipGaps_cons hgap]
  -- No word and no text starts like a number.
  split
  · next heq => exact absurd (hhead heq) (hne 'n' (by decide))
  · next heq => exact absurd (hhead heq) (hne 't' (by decide))
  · next heq => exact absurd (hhead heq) (hne 'f' (by decide))
  · next heq => exact absurd (hhead heq) (hne '"' (by decide))
  · simp only [hread]

theorem readScalar_text (s : String) (cs : Glyphs) :
    readScalar ((quote s).map some ++ cs) = .ok (text s, cs) := by
  simp only [readScalar, quote, List.cons_append, List.map_cons]
  rw [skipGaps_cons (by decide)]
  simp only [readString_quote]

/-- A value with brackets starts with one. -/
theorem readWithin_eq_readScalar (depth : Nat) {c : Char} {cs : Glyphs}
    (hgap : isGap (some c) = false) (hlist : c ≠ '[') (hobject : c ≠ '{') :
    readWithin depth (some c :: cs) = readScalar (some c :: cs) := by
  cases depth with
  | zero => rfl
  | succ depth =>
    simp only [readWithin, skipGaps_cons hgap]
    split
    · next heq => exact absurd (by simpa using congrArg List.head? heq) hlist
    · next heq => exact absurd (by simpa using congrArg List.head? heq) hobject
    · rfl

/-! ## Values -/

/-- A value starts with a character that is neither blank nor a closing bracket, and with an opening
    one only if it has brackets. -/
theorem exists_chars_eq_cons (v : Value) : ∃ c cs, v.chars = c :: cs ∧ isGap (some c) = false ∧
    c ≠ ']' ∧ c ≠ '}' ∧ (v.Within 0 → c ≠ '[' ∧ c ≠ '{') := by
  cases v with
  | null => exact ⟨'n', _, rfl, by decide, by decide, by decide, fun _ => by decide⟩
  | bool b =>
    cases b <;> exact ⟨_, _, rfl, by decide, by decide, by decide, fun _ => by decide⟩
  | int n =>
    obtain ⟨c, cs, hcons, hgap, hne⟩ := exists_intChars_eq_cons n
    exact ⟨c, cs, by rw [chars, hcons], hgap, hne ']' (by decide), hne '}' (by decide),
      fun _ => ⟨hne '[' (by decide), hne '{' (by decide)⟩⟩
  | text s =>
    exact ⟨'"', _, by rw [chars, quote]; rfl, by decide, by decide, by decide, fun _ => by decide⟩
  | list items => exact ⟨'[', _, chars_list items, by decide, by decide, by decide, False.elim⟩
  | object members =>
    exact ⟨'{', _, chars_object_parts members, by decide, by decide, by decide, False.elim⟩

theorem put_of_notMem {name : String} {v : Value} {ms : List (String × Value)}
    (h : name ∉ ms.map (·.1)) : put name v ms = ms ++ [(name, v)] := by
  induction ms with
  | nil => rfl
  | cons m ms ih =>
    rw [List.map_cons, List.mem_cons, not_or] at h
    rw [put, if_neg (fun heq => h.1 heq.symm), ih h.2, List.cons_append]

/-- Members of different names are all kept, in their order. -/
theorem foldl_put {ms : List (String × Value)} (hkeys : (ms.map (·.1)).Nodup)
    (made : List (String × Value)) (hnew : ∀ m ∈ ms, m.1 ∉ made.map (·.1)) :
    ms.foldl (fun made m => put m.1 m.2 made) made = made ++ ms := by
  induction ms generalizing made with
  | nil => simp
  | cons m ms ih =>
    rw [List.map_cons, List.nodup_cons] at hkeys
    have hput := put_of_notMem (v := m.2) (hnew m List.mem_cons_self)
    have hnew' : ∀ m' ∈ ms, m'.1 ∉ (made ++ [m]).map (·.1) := by
      intro m' hm'
      rw [List.map_append, List.mem_append, not_or]
      refine ⟨hnew m' (List.mem_cons_of_mem _ hm'), ?_⟩
      intro heq
      rw [List.map_singleton, List.mem_singleton] at heq
      exact hkeys.1 (heq ▸ List.mem_map_of_mem hm')
    rw [List.foldl_cons, hput, ih hkeys.2 _ hnew', List.append_assoc, List.singleton_append]

theorem foldl_append_singleton (items : List Value) (made : List Value) :
    items.foldl (fun made v => made ++ [v]) made = made ++ items := by
  induction items generalizing made with
  | nil => simp
  | cons v items ih => rw [List.foldl_cons, ih, List.append_assoc, List.singleton_append]

theorem readScalar_chars {v : Value} (h : v.Within 0) {cs : Glyphs} (hcs : Delimited cs) :
    readScalar (v.chars.map some ++ cs) = .ok (v, cs) := by
  cases v with
  | null => rfl
  | bool b => cases b <;> rfl
  | int n =>
    rw [chars]
    exact readScalar_int h.1 h.2 hcs
  | text s =>
    rw [chars]
    exact readScalar_text s cs
  | list items => exact h.elim
  | object members => exact h.elim

theorem readWithin_of_scalar (depth : Nat) {v : Value} (h : v.Within 0) {cs : Glyphs}
    (hcs : Delimited cs) : readWithin depth (v.chars.map some ++ cs) = .ok (v, cs) := by
  have hscalar := readScalar_chars h hcs
  obtain ⟨c, ds, hcons, hgap, -, -, hopen⟩ := exists_chars_eq_cons v
  rw [hcons, List.map_cons, List.cons_append] at hscalar ⊢
  rw [readWithin_eq_readScalar depth hgap (hopen h).1 (hopen h).2, hscalar]

theorem delimited_cons {close c : Char} (hclose : close = ']' ∨ close = '}')
    (hc : c = ',' ∨ c = close) (cs : Glyphs) : Delimited (some c :: cs) := by
  obtain rfl | rfl := hc
  · exact .inl rfl
  · obtain rfl | rfl := hclose
    · exact .inr (.inl rfl)
    · exact .inr (.inr rfl)

/-- The reader reads a value where the text ends or goes on behind it. -/
def Reads (read : Reader Value) (v : Value) : Prop :=
  ∀ cs, Delimited cs → read (v.chars.map some ++ cs) = .ok (v, cs)

theorem Reads.item {read : Reader Value} {v : Value} (h : Reads read v) :
    PartReads ']' (readItem read) (fun made v => made ++ [v]) chars v := by
  intro made c cs hc
  simp only [readItem, h _ (delimited_cons (.inl rfl) hc cs)]

theorem Reads.entry {read : Reader Value} {m : String × Value} (h : Reads read m.2) :
    PartReads '}' (readEntry read) (fun made m => put m.1 m.2 made) memberText m := by
  intro made c cs hc
  have hname : readString .plain [] ((m.1.toList.flatMap escape).map some ++ some '"' ::
      some ':' :: (m.2.chars.map some ++ some c :: cs))
        = some (m.1, some ':' :: (m.2.chars.map some ++ some c :: cs)) := by
    rw [← readString_quote]
    simp
  simp only [readEntry, memberText, quote, List.map_append, List.map_cons, List.cons_append,
    List.nil_append, List.append_assoc]
  rw [skipGaps_cons (by decide)]
  simp only [hname, readColon]
  rw [skipGaps_cons (by decide)]
  simp only [h _ (delimited_cons (.inr rfl) hc cs)]

/-- A value is read back where the text ends or goes on behind it. -/
theorem reads_readWithin {depth : Nat} {v : Value} (h : v.Within depth) :
    Reads (readWithin depth) v := by
  -- By induction on the depth that is left: what stands in a bracket has one less.
  induction depth generalizing v with
  | zero => exact fun cs hcs => readWithin_of_scalar 0 h hcs
  | succ depth ih =>
    intro cs hcs
    have hfuel {α : Type} (close : Char) (write : α → List Char) (as : List α) :
        as.length < ((allParts close write as).map some ++ cs).length + 1 := by
      have := length_lt_allParts close write as
      simp only [List.length_append, List.length_map]
      omega
    cases v with
    | null => exact readWithin_of_scalar _ (v := null) trivial hcs
    | bool b => exact readWithin_of_scalar _ (v := bool b) trivial hcs
    | int n => exact readWithin_of_scalar _ (v := int n) h hcs
    | text s => exact readWithin_of_scalar _ (v := text s) trivial hcs
    | list items =>
      have hstarts : ∀ v ∈ items, Starts ']' v.chars := by
        intro v _
        obtain ⟨c, ds, hcons, hgap, hlist, -, -⟩ := exists_chars_eq_cons v
        exact ⟨c, ds, hcons, hgap, hlist⟩
      have hall := readParts_all (by decide) (by decide) hstarts (fun v hv => (ih (h v hv)).item) _
        (hfuel ']' chars items) [] cs
      rw [chars_list, List.map_cons, List.cons_append]
      simp only [readWithin]
      rw [skipGaps_cons (by decide)]
      simp only [hall, foldl_append_singleton, List.nil_append]
    | object members =>
      have hstarts : ∀ m ∈ members, Starts '}' (memberText m) := by
        intro m _
        exact ⟨'"', _, by rw [memberText, quote]; rfl, by decide, by decide⟩
      have hall := readParts_all (by decide) (by decide) hstarts
        (fun m hm => (ih (h.2 m hm)).entry) _ (hfuel '}' memberText members) [] cs
      rw [chars_object_parts, List.map_cons, List.cons_append]
      simp only [readWithin]
      rw [skipGaps_cons (by decide)]
      simp only [hall, foldl_put h.1 [] (by simp), List.nil_append]

/-- The value that the compact text of a value spells is that value. -/
theorem parse_render {v : Value} (h : v.Within depthLimit) : parse (glyphsOf v.render) = .ok v := by
  have hread := reads_readWithin h [] trivial
  rw [List.append_nil] at hread
  rw [parse, readAll, glyphsOf, render, String.toList_ofList, hread]
  rfl

end PayOnce.Json.Value
