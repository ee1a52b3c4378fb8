import PayOnce.Proofs.Net.Numbers
/-!
IPv6 addresses. They are read in exactly the spellings of a small grammar: rows of groups, at most
once two colons for groups of zero, and an IPv4 address for the last two groups.
-/

namespace PayOnce.Net.SocketAddress

open Text

/-! ## Spellings -/

/-- One to four hexadecimal digits spell a group. -/
abbrev SpellsGroup (ds : List Char) (g : Nat) : Prop :=
  Denotes Hex.value? 4 65536 ds g

/-- A colon stands before every group but the first. -/
def lead (first : Bool) : List Char :=
  if first then [] else [':']

@[simp] theorem lead_true : lead true = [] :=
  rfl

@[simp] theorem lead_false : lead false = [':'] :=
  rfl

/-- Groups in a row, and whether an IPv4 address ends them. -/
inductive SpellsRow : (first : Bool) → List Char → List Nat → (dotted : Bool) → Prop
  | nil (first : Bool) : SpellsRow first [] [] false
  | dotted (first : Bool) {octets : List Nat} (h : Octets octets) :
    SpellsRow first (lead first ++ v4Chars octets) (groupsOfV4 octets) true
  | cons (first : Bool) {ds row : List Char} {g : Nat} {gs : List Nat} {dotted : Bool}
    (h : SpellsGroup ds g) (hrow : SpellsRow false row gs dotted) :
    SpellsRow first (lead first ++ ds ++ row) (g :: gs) dotted

/-- Eight groups are spelled in a row, or in two rows with two colons between them that stand for
    at least one group of zero. -/
inductive SpellsV6 : List Char → List Nat → Prop
  | full {row : List Char} {gs : List Nat} {dotted : Bool} (h : SpellsRow true row gs dotted)
    (hall : gs.length = 8) : SpellsV6 row gs
  | short {row row' : List Char} {gs gs' : List Nat} {dotted : Bool}
    (h : SpellsRow true row gs false) (h' : SpellsRow true row' gs' dotted)
    (hfew : gs.length + gs'.length < 8) :
    SpellsV6 (row ++ ':' :: ':' :: row')
      (gs ++ List.replicate (8 - gs.length - gs'.length) 0 ++ gs')

/-! ## Rows are read -/

/-- What may come after a row: the end of the address, a zone, or the two colons. -/
inductive Stops : List Char → Prop
  | bracket (cs : List Char) : Stops (']' :: cs)
  | zone (cs : List Char) : Stops ('%' :: cs)
  | colons (cs : List Char) : Stops (':' :: ':' :: cs)

theorem isSome_digit?_of_isDigit {c : Char} (h : Decimal.isDigit c = true) :
    (Hex.digit? c).isSome = true := by
  rw [Decimal.isDigit_iff] at h
  simp [Hex.digit?, h]

/-- Where no hexadecimal digit stands, no decimal digit does. -/
theorem Ends.decimal {rest : List Char} (h : Ends Hex.digit? rest) : Ends Decimal.digit? rest := by
  intro c hc
  have hnone := h c hc
  cases hdigit : Decimal.isDigit c with
  | false => exact hdigit
  | true => simp [isSome_digit?_of_isDigit hdigit] at hnone

/-- A text does not go on with a group, nor a group with more digits or a point. -/
def NoGroup (rest : List Char) : Prop :=
  ∀ c ∈ rest.head?, (Hex.digit? c).isSome = false ∧ c ≠ '.'

@[simp] theorem noGroup_cons (c : Char) (cs : List Char) :
    NoGroup (c :: cs) ↔ (Hex.digit? c).isSome = false ∧ c ≠ '.' := by
  simp [NoGroup]

theorem NoGroup.ends {rest : List Char} (h : NoGroup rest) : Ends Hex.digit? rest :=
  fun c hc => (h c hc).1

theorem noGroup_colon (cs : List Char) : NoGroup (':' :: cs) := by
  rw [noGroup_cons]
  decide

theorem Stops.noGroup {rest : List Char} (h : Stops rest) : NoGroup rest := by
  cases h <;> rw [noGroup_cons] <;> decide

/-- A group before other groups of a row, or before what follows the row, is at its end. -/
theorem SpellsRow.noGroup {row rest : List Char} {gs : List Nat} {dotted : Bool}
    (h : SpellsRow false row gs dotted) (hstops : Stops rest) : NoGroup (row ++ rest) := by
  cases h with
  | nil => exact hstops.noGroup
  | dotted => exact noGroup_colon _
  | cons => exact noGroup_colon _

theorem readGroup_append {ds rest : List Char} {g : Nat} (h : SpellsGroup ds g)
    (hends : Ends Hex.digit? rest) : readGroup (ds ++ rest) = some (g, rest) :=
  readNumber_append Hex.radix h hends

/-- An IPv4 address begins with a number and a point. -/
theorem exists_of_readV4 {cs rest : List Char} {octets : List Nat}
    (h : readV4 cs = some (octets, rest)) :
    ∃ (o : Nat) (cs' : List Char), cs = Decimal.digits o ++ '.' :: cs' := by
  obtain ⟨hoctets, rfl⟩ := readV4_eq_some h
  obtain ⟨a, b, c, d, rfl, -⟩ := hoctets.exists_eq
  exact ⟨a, _, v4Chars_four a b c d rest⟩

/-- Digits that no point follows are not taken for an IPv4 address. -/
theorem readV4_of_digits {ds rest : List Char} (hds : ∀ c ∈ ds, (Hex.digit? c).isSome = true)
    (hrest : NoGroup rest) : readV4 (ds ++ rest) = none := by
  cases hread : readV4 (ds ++ rest) with
  | none => rfl
  | some r =>
    obtain ⟨o, cs, heq⟩ := exists_of_readV4 hread
    have hpoint : Ends Hex.digit? ('.' :: cs) := by
      rw [ends_cons]
      decide
    have hsame : ds = Decimal.digits o := by
      rw [← takeWhile_digits hds hrest.ends, heq]
      exact takeWhile_digits
        (fun c hc => isSome_digit?_of_isDigit (Decimal.isDigit_of_mem_digits hc)) hpoint
    rw [hsame] at heq
    rw [List.append_cancel_left heq, noGroup_cons] at hrest
    exact absurd rfl hrest.2

/-- The next group of a row, or its IPv4 address, stands behind its colon. -/
theorem front_lead (first : Bool) (cs : List Char) :
    (if first = true then some (lead first ++ cs) else readMark ':' (lead first ++ cs)) =
      some cs := by
  cases first <;> simp

theorem eq_of_front {first : Bool} {cs front : List Char}
    (h : (if first = true then some cs else readMark ':' cs) = some front) :
    cs = lead first ++ front := by
  cases first with
  | true => exact Option.some.inj h
  | false => exact readMark_eq_some h

theorem NoGroup.read {cs : List Char} (h : NoGroup cs) :
    readV4 cs = none ∧ readGroup cs = none := by
  have hnodigit : ∀ c ∈ ([] : List Char), (Hex.digit? c).isSome = true := by simp
  exact ⟨readV4_of_digits hnodigit h, readNumber_of_ends h.ends⟩

theorem readGroups_of_stops {rest : List Char} (h : Stops rest) (first : Bool) (left : Nat) :
    readGroups first left rest = ([], false, rest) := by
  cases left with
  | zero => rfl
  | succ left =>
    cases first with
    | true =>
      obtain ⟨hv4, hgroup⟩ := h.noGroup.read
      simp only [readGroups, if_true, hv4, ite_self, hgroup]
    | false =>
      cases h with
      | bracket cs => rfl
      | zone cs => rfl
      | colons cs =>
        -- The first colon might lead to a group, but the second one is none.
        obtain ⟨hv4, hgroup⟩ := (noGroup_colon cs).read
        simp only [readGroups, Bool.false_eq_true, if_false, readMark_cons, hv4, ite_self, hgroup]

/-- A row is read as the groups that it spells, up to what may follow it. -/
theorem SpellsRow.read {first : Bool} {row rest : List Char} {gs : List Nat} {dotted : Bool}
    (h : SpellsRow first row gs dotted) (hstops : Stops rest) {left : Nat}
    (hleft : gs.length ≤ left) : readGroups first left (row ++ rest) = (gs, dotted, rest) := by
  -- By induction on the row, for any room that it fits in.
  induction h generalizing left with
  | nil first => exact readGroups_of_stops hstops first left
  | @dotted first octets hoctets =>
    -- There is room for both of its groups.
    rw [hoctets.length_groupsOfV4] at hleft
    obtain ⟨left, rfl⟩ : ∃ k, left = k + 2 := ⟨left - 2, (Nat.sub_add_cancel hleft).symm⟩
    simp only [readGroups, List.append_assoc, front_lead, Nat.zero_lt_succ, gt_iff_lt, if_true,
      readV4_append hoctets hstops.noGroup.ends.decimal]
  | @cons first ds row g gs dotted hgroup hrow ih =>
    obtain ⟨left, rfl⟩ : ∃ k, left = k + 1 := ⟨left - 1, (Nat.sub_add_cancel
      (Nat.le_trans (Nat.succ_pos _) hleft)).symm⟩
    have hnext := hrow.noGroup hstops
    have hv4 := readV4_of_digits (Hex.radix.isSome_digit?_of_value? hgroup.value) hnext
    simp only [readGroups, List.append_assoc, front_lead, hv4, ite_self,
      readGroup_append hgroup hnext.ends, ih (Nat.le_of_succ_le_succ hleft)]

/-- What is read as groups is a row that spells them. -/
theorem exists_of_readGroups {first : Bool} {left : Nat} {cs rest : List Char} {gs : List Nat}
    {dotted : Bool} (h : readGroups first left cs = (gs, dotted, rest)) :
    ∃ row, SpellsRow first row gs dotted ∧ gs.length ≤ left ∧ cs = row ++ rest := by
  -- By induction on the room that is left, of which each group takes one.
  induction left generalizing first cs gs dotted with
  | zero =>
    cases h
    exact ⟨[], .nil first, Nat.le_refl 0, rfl⟩
  | succ left ih =>
    simp only [readGroups] at h
    split at h
    · cases h
      exact ⟨[], .nil first, Nat.zero_le _, rfl⟩
    · next front hfront =>
      cases eq_of_front hfront
      split at h
      · next octets rest' hv4 =>
        cases h
        split at hv4
        · next hleft =>
          obtain ⟨hoctets, rfl⟩ := readV4_eq_some hv4
          refine ⟨_, .dotted first hoctets, ?_, (List.append_assoc _ _ _).symm⟩
          rw [hoctets.length_groupsOfV4]
          exact Nat.succ_le_succ hleft
        · cases hv4
      · split at h
        · cases h
          exact ⟨[], .nil first, Nat.zero_le _, rfl⟩
        · next g rest' hgroup =>
          obtain ⟨gs', dotted', rest'', hmore⟩ : ∃ gs' dotted' rest'',
            readGroups false left rest' = (gs', dotted', rest'') := ⟨_, _, _, rfl⟩
          rw [hmore] at h
          cases h
          obtain ⟨ds, hds, rfl⟩ := readNumber_eq_some hgroup
          obtain ⟨row, hrow, hlength, rfl⟩ := ih hmore
          refine ⟨_, .cons first hds hrow, Nat.succ_le_succ hlength, ?_⟩
          simp only [List.append_assoc]

/-! ## Addresses are read -/

/-- A spelled address is read up to what comes after it. -/
theorem SpellsV6.read {cs rest : List Char} {groups : List Nat} (h : SpellsV6 cs groups)
    (hstops : Stops rest) : readV6 (cs ++ rest) = some (groups, rest) := by
  cases h with
  | full h hall =>
    simp only [readV6, h.read hstops (Nat.le_of_eq hall), hall, if_true]
  | @short row row' gs gs' dotted h h' hfew =>
    have hhead : readGroups true 8 (row ++ ':' :: ':' :: (row' ++ rest)) =
        (gs, false, ':' :: ':' :: (row' ++ rest)) :=
      h.read (.colons (row' ++ rest)) (by omega)
    have htail : readGroups true (7 - gs.length) (row' ++ rest) = (gs', dotted, rest) :=
      h'.read hstops (by omega)
    have hnotall : gs.length ≠ 8 := by omega
    simp only [readV6, List.append_assoc, List.cons_append, hhead, hnotall, if_false,
      Bool.false_eq_true, readMark_cons, htail, Option.bind_eq_bind, Option.bind_some,
      Option.pure_def]

/-- What is read as an address spells it. -/
theorem exists_of_readV6 {cs rest : List Char} {groups : List Nat}
    (h : readV6 cs = some (groups, rest)) : ∃ row, SpellsV6 row groups ∧ cs = row ++ rest := by
  obtain ⟨gs, dotted, rest', hhead⟩ : ∃ gs dotted rest',
    readGroups true 8 cs = (gs, dotted, rest') := ⟨_, _, _, rfl⟩
  obtain ⟨row, hrow, hlength, rfl⟩ := exists_of_readGroups hhead
  simp only [readV6, hhead] at h
  split at h
  · next hall =>
    cases h
    exact ⟨row, .full hrow hall, rfl⟩
  split at h
  · cases h
  · next hnotall hplain =>
    obtain ⟨_, hcolon, hafter⟩ := Option.bind_eq_some_iff.1 h
    obtain ⟨tail, hcolon', hresult⟩ := Option.bind_eq_some_iff.1 hafter
    cases readMark_eq_some hcolon
    cases readMark_eq_some hcolon'
    obtain ⟨gs', dotted', rest'', htail⟩ : ∃ gs' dotted' rest'',
      readGroups true (7 - gs.length) tail = (gs', dotted', rest'') := ⟨_, _, _, rfl⟩
    obtain ⟨row', hrow', hlength', rfl⟩ := exists_of_readGroups htail
    have hfew : gs.length + gs'.length < 8 := by omega
    rw [htail] at hresult
    cases hresult
    rw [Bool.eq_false_of_not_eq_true hplain] at hrow
    exact ⟨_, .short hrow hrow' hfew, by simp only [List.append_assoc, List.cons_append]⟩

end PayOnce.Net.SocketAddress
