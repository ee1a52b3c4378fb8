import PayOnce.Proofs.Text.Hex
import PayOnce.Uuid
/-!
The text of an identifier is read back as the same identifier, and so is each of its spellings.
Nothing else is read.
-/

namespace PayOnce.Uuid

open Text

/-- Reading drops the hyphens that cut digits into groups. -/
theorem ofHyphenated?_groups {a b c d e : List Char} (ha : a.length = 8) (hb : b.length = 4)
    (hc : c.length = 4) (hd : d.length = 4) (he : e.length = 12) :
    ofHyphenated? (a ++ '-' :: b ++ '-' :: c ++ '-' :: d ++ '-' :: e)
      = ofSimple? (a ++ b ++ c ++ d ++ e) := by
  have hlength : (a ++ '-' :: b ++ '-' :: c ++ '-' :: d ++ '-' :: e).length = 36 := by
    simp [ha, hb, hc, hd, he]
  unfold ofHyphenated?
  rw [if_pos ⟨hlength, by simp [ha], by simp [List.getElem?_append, ha, hb],
    by simp [List.getElem?_append, ha, hb, hc], by simp [List.getElem?_append, ha, hb, hc, hd]⟩]
  simp [List.drop_append, ha, hb, hc, hd, List.drop_of_length_le]

theorem ofHyphenated?_hyphenate {ds : List Char} (h : ds.length = 32) :
    ofHyphenated? (hyphenate ds) = ofSimple? ds := by
  have hsplit : ds.take 8 ++ (ds.drop 8).take 4 ++ (ds.drop 12).take 4 ++ (ds.drop 16).take 4
      ++ ds.drop 20 = ds := by
    have hdrop (m n : Nat) : (ds.drop m).take n ++ ds.drop (m + n) = ds.drop m := by
      rw [← List.drop_drop, List.take_append_drop]
    simp only [List.append_assoc]
    rw [hdrop 16 4, hdrop 12 4, hdrop 8 4, List.take_append_drop]
  unfold hyphenate
  rw [ofHyphenated?_groups (by simp [h]) (by simp [h]) (by simp [h]) (by simp [h]) (by simp [h]),
    hsplit]

@[simp] theorem length_simple (u : Uuid) : u.simple.length = 32 :=
  Hex.length_fixed 32 _

theorem ofSimple?_simple (u : Uuid) : ofSimple? u.simple = some u := by
  have hlt : u.bits.toNat < 16 ^ 32 := u.bits.isLt
  unfold ofSimple? simple
  rw [if_pos (Hex.length_fixed 32 _), Hex.value?_fixed, Nat.zero_mul, Nat.zero_add,
    Nat.mod_eq_of_lt hlt]
  simp

@[simp] theorem length_chars (u : Uuid) : u.chars.length = 36 := by
  simp [chars, hyphenate]

/-- An identifier is read back from its text. -/
theorem ofText?_text (u : Uuid) : ofText? u.text = some u := by
  have hchars : ofChars? u.chars = ofHyphenated? u.chars := by
    unfold ofChars?
    rw [if_neg (by simp), if_pos (by simp)]
  unfold ofText? text
  rw [String.toList_ofList, hchars, chars, ofHyphenated?_hyphenate (length_simple u),
    ofSimple?_simple]

/-! ## Spellings -/

/-- The spellings of an identifier: its digits, cut into groups by hyphens or not, and groups in
    braces or behind their mark. Digits and mark are in either case. -/
inductive Spells : List Char → Uuid → Prop
  | simple {ds : List Char} {u : Uuid} (h : ds.map Char.toLower = u.simple) : Spells ds u
  | hyphenated {ds : List Char} {u : Uuid} (h : ds.map Char.toLower = u.simple) :
      Spells (hyphenate ds) u
  | braced {ds : List Char} {u : Uuid} (h : ds.map Char.toLower = u.simple) :
      Spells ('{' :: hyphenate ds ++ ['}']) u
  | marked {mark ds : List Char} {u : Uuid} (hmark : mark.map Char.toLower = urn)
      (h : ds.map Char.toLower = u.simple) : Spells (mark ++ hyphenate ds) u

/-- Thirty-two digits are read as the identifier whose digits they are. -/
theorem ofSimple?_eq_some_iff {ds : List Char} {u : Uuid} :
    ofSimple? ds = some u ↔ ds.map Char.toLower = u.simple := by
  constructor
  · intro h
    unfold ofSimple? at h
    split at h
    · next hlength =>
      obtain ⟨n, hvalue, rfl⟩ := Option.map_eq_some_iff.1 h
      have hfixed := Hex.fixed_of_value? hvalue
      have hmod : n = n % 2 ^ 128 := by
        have hread := Hex.value?_fixed 32 0 n
        rw [← hlength, hfixed, Hex.value?_map_toLower, hvalue] at hread
        simpa [hlength] using hread
      rw [simple, BitVec.toNat_ofNat, ← hmod, ← hfixed, hlength]
    · cases h
  · intro h
    have hlength : ds.length = u.simple.length := by rw [← h, List.length_map]
    rw [← ofSimple?_simple u, ← h, ofSimple?, ofSimple?, Hex.value?_map_toLower, List.length_map]

theorem hyphenate_groups {a b c d e : List Char} (ha : a.length = 8) (hb : b.length = 4)
    (hc : c.length = 4) (hd : d.length = 4) :
    hyphenate (a ++ b ++ c ++ d ++ e) = a ++ '-' :: b ++ '-' :: c ++ '-' :: d ++ '-' :: e := by
  simp [hyphenate, List.drop_append, ha, hb, hc, hd, List.drop_of_length_le]

/-- Only groups of digits with hyphens between them are read. -/
theorem ofHyphenated?_eq_some_iff {cs : List Char} {u : Uuid} :
    ofHyphenated? cs = some u ↔ ∃ ds, cs = hyphenate ds ∧ ds.map Char.toLower = u.simple := by
  constructor
  · intro h
    unfold ofHyphenated? at h
    split at h
    · next hcs =>
      obtain ⟨hlength, h8, h13, h18, h23⟩ := hcs
      refine ⟨_, ?_, ofSimple?_eq_some_iff.1 h⟩
      have hyphen {k : Nat} (hk : cs[k]? = some '-') : cs.drop k = '-' :: cs.drop (k + 1) := by
        obtain ⟨hlt, heq⟩ := List.getElem?_eq_some_iff.1 hk
        rw [List.drop_eq_getElem_cons hlt, heq]
      have group (k : Nat) : cs.drop k = (cs.drop k).take 4 ++ cs.drop (k + 4) := by
        rw [← List.drop_drop, List.take_append_drop]
      rw [hyphenate_groups (by simp [hlength]) (by simp [hlength]) (by simp [hlength])
        (by simp [hlength])]
      simp only [List.append_assoc, List.cons_append]
      rw [← hyphen h23, ← group 19, ← hyphen h18, ← group 14, ← hyphen h13, ← group 9, ← hyphen h8,
        List.take_append_drop]
    · cases h
  · rintro ⟨ds, rfl, h⟩
    have hlength : ds.length = 32 := by rw [← length_simple u, ← h, List.length_map]
    rw [ofHyphenated?_hyphenate hlength, ofSimple?_eq_some_iff, h]

theorem length_of_map_toLower {ds : List Char} {u : Uuid} (h : ds.map Char.toLower = u.simple) :
    ds.length = 32 := by
  rw [← length_simple u, ← h, List.length_map]

theorem length_hyphenate {ds : List Char} {u : Uuid} (h : ds.map Char.toLower = u.simple) :
    (hyphenate ds).length = 36 := by
  simp [hyphenate, length_of_map_toLower h]

/-- Every spelling is read. -/
theorem Spells.ofChars? {cs : List Char} {u : Uuid} (h : Spells cs u) : ofChars? cs = some u := by
  unfold Uuid.ofChars?
  cases h with
  | simple h => rw [if_pos (length_of_map_toLower h), ofSimple?_eq_some_iff, h]
  | hyphenated h =>
    have hlength := length_hyphenate h
    rw [if_neg (by omega), if_pos hlength, ofHyphenated?_eq_some_iff]
    exact ⟨_, rfl, h⟩
  | @braced ds _ h =>
    have hlength := length_hyphenate h
    rw [if_neg (by simp [hlength]), if_neg (by simp [hlength]),
      if_pos ⟨by simp [hlength], rfl, List.getLast?_concat⟩, ofHyphenated?_eq_some_iff]
    exact ⟨ds, by simp [hlength], h⟩
  | @marked mark ds _ hmark h =>
    have hlength := length_hyphenate h
    have hnine : mark.length = 9 := by
      rw [← List.length_map Char.toLower, hmark]
      rfl
    rw [if_neg (by simp [hlength, hnine]), if_neg (by simp [hlength, hnine]),
      if_neg (by simp [hlength, hnine]),
      if_pos ⟨by simp [hlength, hnine], by simpa [hnine] using hmark⟩, ofHyphenated?_eq_some_iff]
    exact ⟨ds, by simp [hnine], h⟩

theorem eq_braced {cs inner : List Char} (hlength : cs.length = 38) (hhead : cs.head? = some '{')
    (hlast : cs.getLast? = some '}') (hinner : (cs.drop 1).take 36 = inner) :
    cs = '{' :: inner ++ ['}'] := by
  cases cs with
  | nil => cases hhead
  | cons c rest =>
    cases hhead
    rw [List.length_cons] at hlength
    obtain ⟨d, hd⟩ : ∃ d, rest.drop 36 = [d] :=
      List.length_eq_one_iff.1 (by rw [List.length_drop]; omega)
    have hsplit : rest = inner ++ [d] := by
      rw [← hinner, ← hd, List.drop_succ_cons, List.drop_zero, List.take_append_drop]
    rw [hsplit, ← List.cons_append, List.getLast?_concat] at hlast
    cases hlast
    rw [hsplit, List.cons_append]

/-- Nothing but spellings is read. -/
theorem spells_of_ofChars? {cs : List Char} {u : Uuid} (h : ofChars? cs = some u) :
    Spells cs u := by
  unfold ofChars? at h
  split at h
  · exact .simple (ofSimple?_eq_some_iff.1 h)
  split at h
  · obtain ⟨ds, rfl, hds⟩ := ofHyphenated?_eq_some_iff.1 h
    exact .hyphenated hds
  split at h
  · next hcs =>
    obtain ⟨hlength, hhead, hlast⟩ := hcs
    obtain ⟨ds, hinner, hds⟩ := ofHyphenated?_eq_some_iff.1 h
    rw [eq_braced hlength hhead hlast hinner]
    exact .braced hds
  split at h
  · next hcs =>
    obtain ⟨ds, hrest, hds⟩ := ofHyphenated?_eq_some_iff.1 h
    rw [← List.take_append_drop 9 cs, hrest]
    exact .marked hcs.2 hds
  · cases h

/-- A text is read as an identifier exactly if it is one of its spellings. -/
theorem ofText?_eq_some_iff (s : String) (u : Uuid) : ofText? s = some u ↔ Spells s.toList u :=
  ⟨spells_of_ofChars?, Spells.ofChars?⟩

/-- Identifiers with the same text are the same. -/
theorem text_injective {u u' : Uuid} (h : u.text = u'.text) : u = u' := by
  have hread := ofText?_text u
  rw [h, ofText?_text] at hread
  cases hread
  rfl

/-! ## What spellings look like -/

theorem isSome_digit? {ds : List Char} {u : Uuid} (h : ds.map Char.toLower = u.simple) :
    ∀ c ∈ ds, (Hex.digit? c).isSome = true := by
  have hread := ofSimple?_eq_some_iff.2 h
  rw [ofSimple?, if_pos (length_of_map_toLower h)] at hread
  obtain ⟨n, hvalue, -⟩ := Option.map_eq_some_iff.1 hread
  exact Hex.radix.isSome_digit?_of_value? hvalue

theorem mem_hyphenate {c : Char} {ds : List Char} (h : c ∈ hyphenate ds) : c ∈ ds ∨ c = '-' := by
  simp only [hyphenate, List.mem_append, List.mem_cons] at h
  grind [List.mem_of_mem_take, List.mem_of_mem_drop]

/-- There is nothing in a spelling but digits, hyphens, braces and the letters of the mark. -/
theorem Spells.notMem {cs : List Char} {u : Uuid} (h : Spells cs u) {c : Char}
    (hdigit : Hex.digit? c = none) (hpunctuation : c ∉ ['-', '{', '}'])
    (hmark : c.toLower ∉ urn) : c ∉ cs := by
  simp only [List.mem_cons, List.not_mem_nil, or_false, not_or] at hpunctuation
  obtain ⟨hhyphen, hopen, hclose⟩ := hpunctuation
  have hds {ds : List Char} (h : ds.map Char.toLower = u.simple) : c ∉ ds := by
    intro hc
    have hsome := isSome_digit? h c hc
    rw [hdigit] at hsome
    cases hsome
  have hgroups {ds : List Char} (h : ds.map Char.toLower = u.simple) : c ∉ hyphenate ds :=
    fun hc => (mem_hyphenate hc).elim (hds h) hhyphen
  cases h with
  | simple h => exact hds h
  | hyphenated h => exact hgroups h
  | braced h => simp [hopen, hclose, hgroups h]
  | marked hmap h =>
    have hout : c ∉ _ := fun hc => hmark (hmap ▸ List.mem_map_of_mem hc)
    simp [hout, hgroups h]

end PayOnce.Uuid
