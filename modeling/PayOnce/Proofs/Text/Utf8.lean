import PayOnce.Text.Utf8
/-!
UTF-8 against the library's encoding. A text is read back from its bytes, and bytes that are read as
a text are the bytes of this text: no other form of a character is taken for it, be it overlong, a
surrogate or cut off.
-/

namespace PayOnce.Text.Utf8

/-! ## Single characters -/

theorem toNat_ofNat {v : Nat} (h : v.isValidChar) : (Char.ofNat v).val.toNat = v := by
  unfold Char.ofNat
  rw [dif_pos h]
  rfl

theorem ofNat_eq_of_toNat {v : Nat} {b : UInt8} (h : v = b.toNat) : UInt8.ofNat v = b := by
  rw [h, UInt8.ofNat_toNat]

/-- A byte that may follow a leading byte. -/
structure Second (lead b : Nat) : Prop where
  continues : 0x80 ≤ b ∧ b ≤ 0xBF
  notOverlong : (lead = 0xE0 → 0xA0 ≤ b) ∧ (lead = 0xF0 → 0x90 ≤ b)
  notSurrogate : lead = 0xED → b ≤ 0x9F
  notBeyond : lead = 0xF4 → b ≤ 0x8F

theorem second_iff (lead b : Nat) :
    (secondRange lead).1 ≤ b ∧ b ≤ (secondRange lead).2 ↔ Second lead b := by
  constructor
  · intro h
    unfold secondRange at h
    constructor <;> grind
  · rintro ⟨hcontinues, hoverlong, hsurrogate, hbeyond⟩
    unfold secondRange
    grind

/-- A character of several bytes is read on where a second byte follows, and only there. -/
theorem multi_of_second {lead bits n : Nat} {b : UInt8} {rest : List UInt8}
    (h : Second lead b.toNat) :
    multi lead bits n (b :: rest) = tail 2 (64 * bits + (b.toNat - 0x80)) n rest :=
  if_pos ((second_iff _ _).2 h)

theorem second_of_multi {lead bits n : Nat} {bytes after : List UInt8} {c : Char}
    (h : multi lead bits n bytes = .char c after) : ∃ b rest, bytes = b :: rest ∧
      Second lead b.toNat ∧ tail 2 (64 * bits + (b.toNat - 0x80)) n rest = .char c after := by
  cases bytes with
  | nil => cases h
  | cons b rest =>
    by_cases hb : Second lead b.toNat
    · exact ⟨b, rest, rfl, hb, multi_of_second hb ▸ h⟩
    · cases (if_neg fun hrange => hb ((second_iff _ _).1 hrange)).symm.trans h

/-- So are the other bytes. -/
theorem tail_of_continues {seen acc n : Nat} {b : UInt8} {rest : List UInt8}
    (h : 0x80 ≤ b.toNat ∧ b.toNat ≤ 0xBF) :
    tail seen acc (n + 1) (b :: rest) = tail (seen + 1) (64 * acc + (b.toNat - 0x80)) n rest := by
  simp only [tail, continuation?, if_pos h]

theorem continues_of_tail {seen acc n : Nat} {bytes after : List UInt8} {c : Char}
    (h : tail seen acc (n + 1) bytes = .char c after) : ∃ b rest, bytes = b :: rest ∧
      (0x80 ≤ b.toNat ∧ b.toNat ≤ 0xBF) ∧
      tail (seen + 1) (64 * acc + (b.toNat - 0x80)) n rest = .char c after := by
  cases bytes with
  | nil => cases h
  | cons b rest =>
    by_cases hb : 0x80 ≤ b.toNat ∧ b.toNat ≤ 0xBF
    · exact ⟨b, rest, rfl, hb, tail_of_continues hb ▸ h⟩
    · simp only [tail, continuation?, if_neg hb] at h
      cases h

/-- What is read as a character is the way in which this character is written. -/
theorem encode_of_front {b : UInt8} {rest after : List UInt8} {c : Char}
    (h : front b rest = .char c after) : b :: rest = String.utf8EncodeChar c ++ after := by
  unfold front at h
  simp only at h
  split at h
  · obtain ⟨hc, rfl⟩ := Front.char.inj h
    have hv : c.val.toNat = b.toNat := by
      rw [← hc]
      exact toNat_ofNat (.inl (by omega))
    simp only [String.utf8EncodeChar, hv]
    rw [if_pos (by omega), UInt8.ofNat_toNat]
    rfl
  split at h
  · obtain ⟨x, rest, rfl, ⟨hx, -, -, -⟩, h⟩ := second_of_multi h
    obtain ⟨hc, rfl⟩ := Front.char.inj h
    have hv : c.val.toNat = 64 * (b.toNat - 0xC0) + (x.toNat - 0x80) := by
      rw [← hc]
      exact toNat_ofNat (.inl (by omega))
    simp only [String.utf8EncodeChar, hv]
    rw [if_neg (by omega), if_pos (by omega), ofNat_eq_of_toNat (b := b) (by omega),
      ofNat_eq_of_toNat (b := x) (by omega)]
    rfl
  split at h
  · obtain ⟨x, rest, rfl, ⟨hx, ⟨hoverlong, -⟩, hsurrogate, -⟩, h⟩ := second_of_multi h
    obtain ⟨y, rest, rfl, hy, h⟩ := continues_of_tail h
    obtain ⟨hc, rfl⟩ := Front.char.inj h
    have hv : c.val.toNat = 64 * (64 * (b.toNat - 0xE0) + (x.toNat - 0x80)) + (y.toNat - 0x80) := by
      rw [← hc]
      apply toNat_ofNat
      unfold Nat.isValidChar
      omega
    simp only [String.utf8EncodeChar, hv]
    rw [if_neg (by omega), if_neg (by omega), if_pos (by omega),
      ofNat_eq_of_toNat (b := b) (by omega), ofNat_eq_of_toNat (b := x) (by omega),
      ofNat_eq_of_toNat (b := y) (by omega)]
    rfl
  split at h
  · obtain ⟨x, rest, rfl, ⟨hx, ⟨-, hoverlong⟩, -, hbeyond⟩, h⟩ := second_of_multi h
    obtain ⟨y, rest, rfl, hy, h⟩ := continues_of_tail h
    obtain ⟨z, rest, rfl, hz, h⟩ := continues_of_tail h
    obtain ⟨hc, rfl⟩ := Front.char.inj h
    have hv : c.val.toNat = 64 * (64 * (64 * (b.toNat - 0xF0) + (x.toNat - 0x80))
        + (y.toNat - 0x80)) + (z.toNat - 0x80) := by
      rw [← hc]
      apply toNat_ofNat
      unfold Nat.isValidChar
      omega
    simp only [String.utf8EncodeChar, hv]
    rw [if_neg (by omega), if_neg (by omega), if_neg (by omega),
      ofNat_eq_of_toNat (b := b) (by omega), ofNat_eq_of_toNat (b := x) (by omega),
      ofNat_eq_of_toNat (b := y) (by omega), ofNat_eq_of_toNat (b := z) (by omega)]
    rfl
  · cases h

/-- A character is read back from the way in which it is written. -/
theorem front_encode (c : Char) (rest : List UInt8) : ∃ b bytes,
    String.utf8EncodeChar c = b :: bytes ∧ front b (bytes ++ rest) = .char c rest := by
  have hvalid : c.val.toNat.isValidChar := c.valid
  have hc {v : Nat} (hv : v = c.val.toNat) : Char.ofNat v = c := by
    rw [hv]
    exact Char.ofNat_toNat c
  unfold Nat.isValidChar at hvalid
  generalize hv : c.val.toNat = v at hvalid hc
  simp only [String.utf8EncodeChar, hv]
  have hbyte {n : Nat} (hn : n < 256) : (UInt8.ofNat n).toNat = n := by
    rw [UInt8.toNat_ofNat']
    exact Nat.mod_eq_of_lt hn
  split
  · refine ⟨_, _, rfl, ?_⟩
    have hb := hbyte (n := v) (by omega)
    simp only [front, hb]
    rw [if_pos (by omega), hc rfl]
    rfl
  split
  · refine ⟨_, _, rfl, ?_⟩
    have hb := hbyte (n := v / 64 % 0x20 + 0xC0) (by omega)
    have hx := hbyte (n := v % 0x40 + 0x80) (by omega)
    simp only [front, hb, List.cons_append, List.nil_append]
    rw [if_neg (by omega), if_pos (by omega), multi_of_second (by constructor <;> omega)]
    simp only [tail, hx]
    rw [hc (by omega)]
  split
  · refine ⟨_, _, rfl, ?_⟩
    have hb := hbyte (n := v / 4096 % 0x10 + 0xE0) (by omega)
    have hx := hbyte (n := v / 64 % 0x40 + 0x80) (by omega)
    have hy := hbyte (n := v % 0x40 + 0x80) (by omega)
    simp only [front, hb, List.cons_append, List.nil_append]
    rw [if_neg (by omega), if_neg (by omega), if_pos (by omega),
      multi_of_second (by constructor <;> omega), tail_of_continues (by omega)]
    simp only [tail, hx, hy]
    rw [hc (by omega)]
  · refine ⟨_, _, rfl, ?_⟩
    have hb := hbyte (n := v / 262144 % 0x08 + 0xF0) (by omega)
    have hx := hbyte (n := v / 4096 % 0x40 + 0x80) (by omega)
    have hy := hbyte (n := v / 64 % 0x40 + 0x80) (by omega)
    have hz := hbyte (n := v % 0x40 + 0x80) (by omega)
    simp only [front, hb, List.cons_append, List.nil_append]
    rw [if_neg (by omega), if_neg (by omega), if_neg (by omega), if_pos (by omega),
      multi_of_second (by constructor <;> omega), tail_of_continues (by omega),
      tail_of_continues (by omega)]
    simp only [tail, hx, hy, hz]
    rw [hc (by omega)]

/-! ## Texts -/

theorem decodeFrom_encode (cs : List Char) {fuel : Nat} (index : Nat) (done : List Char)
    (hfuel : (cs.flatMap String.utf8EncodeChar).length ≤ fuel) :
    decodeFrom fuel index done (cs.flatMap String.utf8EncodeChar) = .ok (done.reverse ++ cs) := by
  induction cs generalizing fuel index done with
  | nil => cases fuel <;> simp [decodeFrom]
  | cons c cs ih =>
    obtain ⟨b, bytes, hwritten, hfront⟩ := front_encode c (cs.flatMap String.utf8EncodeChar)
    simp only [List.flatMap_cons, hwritten, List.cons_append, List.length_cons,
      List.length_append] at hfuel ⊢
    obtain ⟨fuel, rfl⟩ := Nat.exists_eq_add_one_of_ne_zero (n := fuel) (by omega)
    simp only [decodeFrom, hfront]
    rw [ih _ _ (by omega)]
    simp

theorem glyphsFrom_encode (cs : List Char) {fuel : Nat} (done : List (Option Char))
    (hfuel : (cs.flatMap String.utf8EncodeChar).length ≤ fuel) :
    glyphsFrom fuel done (cs.flatMap String.utf8EncodeChar) = done.reverse ++ cs.map some := by
  induction cs generalizing fuel done with
  | nil => cases fuel <;> simp [glyphsFrom]
  | cons c cs ih =>
    obtain ⟨b, bytes, hwritten, hfront⟩ := front_encode c (cs.flatMap String.utf8EncodeChar)
    simp only [List.flatMap_cons, hwritten, List.cons_append, List.length_cons,
      List.length_append] at hfuel ⊢
    obtain ⟨fuel, rfl⟩ := Nat.exists_eq_add_one_of_ne_zero (n := fuel) (by omega)
    simp only [glyphsFrom, hfront]
    rw [ih _ (by omega)]
    simp

theorem encode_of_decodeFrom {fuel index : Nat} {done cs : List Char} {bytes : List UInt8}
    (hfuel : bytes.length ≤ fuel) (h : decodeFrom fuel index done bytes = .ok cs) :
    ∃ new, cs = done.reverse ++ new ∧ bytes = new.flatMap String.utf8EncodeChar := by
  induction fuel generalizing index done bytes with
  | zero =>
    cases bytes with
    | nil =>
      cases h
      exact ⟨[], by simp⟩
    | cons b rest => cases hfuel
  | succ fuel ih =>
    cases bytes with
    | nil =>
      cases h
      exact ⟨[], by simp⟩
    | cons b rest =>
      simp only [decodeFrom] at h
      cases hfront : front b rest with
      | bad n after => simp [hfront] at h
      | short => simp [hfront] at h
      | char c after =>
        simp only [hfront] at h
        have hwritten := encode_of_front hfront
        have hlength := congrArg List.length hwritten
        simp only [List.length_cons, List.length_append, String.length_utf8EncodeChar]
          at hlength hfuel
        have hpos := c.utf8Size_pos
        obtain ⟨new, rfl, rfl⟩ := ih (by omega) h
        exact ⟨c :: new, by simp, by simpa using hwritten⟩

/-- An array of bytes is listed from its front. -/
theorem toList_loop (bs : ByteArray) (i : Nat) (done : List UInt8) :
    ByteArray.toList.loop bs i done = done.reverse ++ bs.data.toList.drop i := by
  fun_induction ByteArray.toList.loop bs i done with
  | case1 i done h ih =>
    have hi : i < bs.data.toList.length := h
    have hget : bs.get! i = bs.data.toList[i] := getElem!_pos bs.data i hi
    rw [ih, List.drop_eq_getElem_cons (i := i) hi, hget]
    simp only [List.reverse_cons, List.append_assoc, List.singleton_append]
  | case2 i done h =>
    have hi : bs.data.toList.length ≤ i := Nat.le_of_not_lt h
    rw [List.drop_eq_nil_of_le hi, List.append_nil]

/-- The bytes of a text are those of its characters, one after the other. -/
theorem encode_eq (s : String) : encode s = s.toList.flatMap String.utf8EncodeChar := by
  rw [encode, String.toUTF8_eq_toByteArray, ByteArray.toList, toList_loop,
    ← String.utf8Encode_toList, List.utf8Encode, List.data_toByteArray]
  simp

/-- Bytes are read as a text exactly if they are the bytes of this text. -/
theorem decode_eq_ok_iff (bytes : List UInt8) (s : String) :
    decode bytes = .ok s ↔ bytes = encode s := by
  rw [encode_eq, decode]
  constructor
  · intro h
    cases hchars : decodeFrom bytes.length 0 [] bytes with
    | error fault => simp [hchars, Except.map] at h
    | ok cs =>
      obtain ⟨new, rfl, hbytes⟩ := encode_of_decodeFrom (Nat.le_refl _) hchars
      rw [hchars] at h
      cases h
      simpa using hbytes
  · rintro rfl
    rw [decodeFrom_encode _ _ _ (Nat.le_refl _)]
    simp [Except.map]

/-- The bytes of a text are cut into its characters, and no fault is found. -/
theorem glyphs_encode (s : String) : glyphs (encode s) = s.toList.map some := by
  rw [encode_eq, glyphs, glyphsFrom_encode _ _ (Nat.le_refl _), List.reverse_nil, List.nil_append]

end PayOnce.Text.Utf8
