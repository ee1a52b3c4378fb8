import PayOnce.Proofs.Net.Groups
import Mathlib.Data.List.TakeWhile
/-!
Socket addresses. The standard text of an IP address is one of its spellings, and a text is read as
a socket address exactly if it spells a host, a colon and a port.
-/

namespace PayOnce.Net.SocketAddress

open Text

/-! ## The standard text of an IPv6 address -/

/-- Eight numbers below 65536. -/
structure Groups (groups : List Nat) : Prop where
  eight : groups.length = 8
  small : ∀ g ∈ groups, g < 65536

theorem spellsGroup_digits {g : Nat} (h : g < 65536) : SpellsGroup (Hex.digits g) g :=
  ⟨Hex.radix.digits_ne_nil g, Hex.radix.length_digits_le (by decide) h,
    Hex.radix.value?_digits g, h⟩

theorem joinWith_cons (mark : Char) (a : List Char) (rest : List (List Char)) :
    joinWith mark (a :: rest) = a ++ rest.flatMap (mark :: ·) := by
  induction rest generalizing a with
  | nil => simp [joinWith]
  | cons b rest ih => simp [joinWith, ih]

theorem spellsRow_more {gs : List Nat} (h : ∀ g ∈ gs, g < 65536) :
    SpellsRow false ((gs.map Hex.digits).flatMap (':' :: ·)) gs false := by
  induction gs with
  | nil => exact .nil false
  | cons g gs ih =>
    obtain ⟨hg, hgs⟩ := List.forall_mem_cons.1 h
    exact .cons false (spellsGroup_digits hg) (ih hgs)

/-- Groups with colons between them are a row. -/
theorem spellsRow_groupChars {gs : List Nat} (h : ∀ g ∈ gs, g < 65536) :
    SpellsRow true (groupChars gs) gs false := by
  cases gs with
  | nil => exact .nil true
  | cons g gs =>
    obtain ⟨hg, hgs⟩ := List.forall_mem_cons.1 h
    rw [groupChars, List.map_cons, joinWith_cons]
    exact .cons true (spellsGroup_digits hg) (spellsRow_more hgs)

/-- Where a run of zeros is said to be, it is. -/
theorem exists_of_longestZeros {index start length : Nat} {gs : List Nat}
    (h : longestZeros index gs = (start, length)) (hlength : 0 < length) :
    ∃ before after, gs = before ++ List.replicate length 0 ++ after ∧
      index + before.length = start := by
  -- By induction on the groups; that no run is longer does not matter for what they spell.
  induction gs generalizing index with
  | nil =>
    cases h
    cases hlength
  | cons g gs ih =>
    simp only [longestZeros] at h
    split at h
    · -- The longest run starts here.
      cases h
      have hzeros : (g :: gs).takeWhile (· == 0) =
          List.replicate ((g :: gs).takeWhile (· == 0)).length 0 :=
        List.eq_replicate_of_mem fun x hx => by simpa using List.mem_takeWhile_imp hx
      refine ⟨[], (g :: gs).dropWhile (· == 0), ?_, rfl⟩
      rw [List.nil_append, ← hzeros, List.takeWhile_append_dropWhile]
    · obtain ⟨before, after, hgs, hstart⟩ := ih h
      refine ⟨g :: before, after, by rw [hgs]; rfl, ?_⟩
      rw [List.length_cons, ← hstart]
      omega

/-- The standard text of an address spells it. -/
theorem spells_v6Chars {groups : List Nat} (h : Groups groups) :
    SpellsV6 (v6Chars groups) groups := by
  unfold v6Chars
  split
  · next g g' =>
    -- An IPv4 address stands behind ten bytes of zeros and two of ones.
    have hoctets : Octets [g / 256, g % 256, g' / 256, g' % 256] := by
      have hg := h.small g (by simp)
      have hg' := h.small g' (by simp)
      refine ⟨rfl, ?_⟩
      simp only [List.forall_mem_cons, List.not_mem_nil, false_implies, implies_true, and_true]
      omega
    have hgroups : groupsOfV4 [g / 256, g % 256, g' / 256, g' % 256] = [g, g'] := by
      simp only [groupsOfV4, Nat.div_add_mod]
    have hmark : SpellsGroup "ffff".toList 0xFFFF :=
      ⟨by decide, by decide, by decide, by decide⟩
    have hrow := SpellsRow.cons true hmark (.dotted false hoctets)
    rw [hgroups] at hrow
    exact .short (.nil true) hrow (by simp)
  · obtain ⟨start, length, hlongest⟩ : ∃ start length, longestZeros 0 groups = (start, length) :=
      ⟨_, _, rfl⟩
    simp only [hlongest]
    split
    · next hlength =>
      obtain ⟨before, after, rfl, rfl⟩ := exists_of_longestZeros hlongest (by omega)
      have height := h.eight
      simp only [List.length_append, List.length_replicate] at height
      have hbefore : SpellsRow true (groupChars before) before false :=
        spellsRow_groupChars fun g hg => h.small g (by simp [hg])
      have hafter : SpellsRow true (groupChars after) after false :=
        spellsRow_groupChars fun g hg => h.small g (by simp [hg])
      have hspells := SpellsV6.short hbefore hafter (by omega)
      have hzeros : 8 - before.length - after.length = length := by omega
      have htake : (before ++ List.replicate length 0 ++ after).take (0 + before.length) =
          before := by
        rw [Nat.zero_add, List.append_assoc, List.take_left]
      have hdrop : (before ++ List.replicate length 0 ++ after).drop (0 + before.length + length) =
          after :=
        List.drop_left' (by simp)
      rw [hzeros] at hspells
      rw [htake, hdrop, List.append_assoc]
      exact hspells
    · exact .full (spellsRow_groupChars h.small) h.eight

/-! ## Hosts and ports -/

/-- Digits that spell a number below a bound, as many as there are. -/
abbrev SpellsNumber (bound : Nat) (ds : List Char) (n : Nat) : Prop :=
  Denotes Decimal.value? ds.length bound ds n

/-- The zone of an address is spelled as a number of 32 bits, or not at all. -/
inductive SpellsZone : List Char → Nat → Prop
  | none : SpellsZone [] 0
  | some {ds : List Char} {zone : Nat} (h : SpellsNumber (Nat.pow 2 32) ds zone) :
    SpellsZone ('%' :: ds) zone

/-- A host is an IPv4 address, or an IPv6 address in brackets, which may name a zone. -/
inductive SpellsHost (port : Nat) : List Char → SocketAddress → Prop
  | v4 {octets : List Nat} (h : Octets octets) :
    SpellsHost port (v4Chars octets) (.v4 octets port)
  | v6 {cs zs : List Char} {groups : List Nat} {zone : Nat} (h : SpellsV6 cs groups)
    (hzone : SpellsZone zs zone) :
    SpellsHost port ('[' :: (cs ++ zs ++ [']'])) (.v6 groups zone port)

theorem readPort_colon {ds : List Char} {port : Nat} (h : SpellsNumber 65536 ds port) :
    readPort (':' :: ds) = some port := by
  have hread : readDecimal 65536 ds = some (port, []) := by
    have hall := readDecimal_append h ends_nil
    rwa [List.append_nil] at hall
  simp [readPort, hread]

theorem exists_of_readPort {cs : List Char} {port : Nat} (h : readPort cs = some port) :
    ∃ ds, cs = ':' :: ds ∧ SpellsNumber 65536 ds port := by
  obtain ⟨rest, hmark, hafter⟩ := Option.bind_eq_some_iff.1 h
  obtain ⟨⟨n, rest'⟩, hnumber, hresult⟩ := Option.bind_eq_some_iff.1 hafter
  cases readMark_eq_some hmark
  obtain ⟨ds, hds, rfl⟩ := readNumber_eq_some hnumber
  simp only at hresult
  split at hresult
  · next hend =>
    cases hresult
    cases List.isEmpty_iff.1 hend
    rw [List.append_nil]
    exact ⟨ds, rfl, ⟨hds.nonempty, Nat.le_refl _, hds.value, hds.below⟩⟩
  · cases hresult

theorem SpellsZone.read {zs rest : List Char} {zone : Nat} (h : SpellsZone zs zone) :
    readZone (zs ++ ']' :: rest) = (zone, ']' :: rest) := by
  cases h with
  | none => rfl
  | some h =>
    have hends : Ends Decimal.digit? (']' :: rest) := by
      rw [ends_cons]
      decide
    simp only [readZone, List.cons_append, readMark_cons, Option.bind_some,
      readDecimal_append h hends]

theorem exists_of_readZone {cs rest : List Char} {zone : Nat}
    (h : readZone cs = (zone, ']' :: rest)) :
    ∃ zs, SpellsZone zs zone ∧ cs = zs ++ ']' :: rest := by
  unfold readZone at h
  split at h
  · next r hread =>
    cases h
    obtain ⟨front, hmark, hnumber⟩ := Option.bind_eq_some_iff.1 hread
    cases readMark_eq_some hmark
    obtain ⟨ds, hds, rfl⟩ := readNumber_eq_some hnumber
    exact ⟨_, .some ⟨hds.nonempty, Nat.le_refl _, hds.value, hds.below⟩, rfl⟩
  · cases h
    exact ⟨[], .none, rfl⟩

/-- A text is read as a socket address exactly if it spells a host, a colon and a port. -/
theorem ofText?_eq_some_iff (s : String) (a : SocketAddress) :
    ofText? s = some a ↔ ∃ host ds port, s.toList = host ++ ':' :: ds ∧
      SpellsNumber 65536 ds port ∧ SpellsHost port host a := by
  constructor
  · intro h
    unfold ofText? at h
    split at h
    · next octets rest hv4 =>
      obtain ⟨hoctets, hs⟩ := readV4_eq_some hv4
      obtain ⟨port, hport, rfl⟩ := Option.map_eq_some_iff.1 h
      obtain ⟨ds, rfl, hds⟩ := exists_of_readPort hport
      exact ⟨_, ds, port, hs, hds, .v4 hoctets⟩
    · obtain ⟨front, hbracket, hinside⟩ := Option.bind_eq_some_iff.1 h
      obtain ⟨⟨groups, rest⟩, hv6, hafter⟩ := Option.bind_eq_some_iff.1 hinside
      obtain ⟨zone, rest', hzone⟩ : ∃ zone rest', readZone rest = (zone, rest') := ⟨_, _, rfl⟩
      simp only [hzone] at hafter
      obtain ⟨tail, hclose, hend⟩ := Option.bind_eq_some_iff.1 hafter
      obtain ⟨port, hport, hresult⟩ := Option.bind_eq_some_iff.1 hend
      cases hresult
      obtain ⟨ds, rfl, hds⟩ := exists_of_readPort hport
      cases readMark_eq_some hclose
      obtain ⟨zs, hzs, rfl⟩ := exists_of_readZone hzone
      obtain ⟨cs, hcs, rfl⟩ := exists_of_readV6 hv6
      refine ⟨_, ds, port, ?_, hds, .v6 hcs hzs⟩
      rw [readMark_eq_some hbracket]
      simp only [List.append_assoc, List.cons_append, List.nil_append]
  · rintro ⟨host, ds, port, hs, hds, hhost⟩
    have hport := readPort_colon hds
    have hcolon : Ends Decimal.digit? (':' :: ds) := by
      rw [ends_cons]
      decide
    cases hhost with
    | v4 hoctets => simp [ofText?, hs, readV4_append hoctets hcolon, hport]
    | @v6 cs zs groups zone hv6 hzone =>
      have hopen : readV4 ('[' :: (cs ++ (zs ++ ']' :: ':' :: ds))) = none := rfl
      have hgroups : readV6 (cs ++ (zs ++ ']' :: ':' :: ds)) =
          some (groups, zs ++ ']' :: ':' :: ds) := by
        refine hv6.read ?_
        cases hzone with
        | none => exact .bracket _
        | some => exact .zone _
      simp [ofText?, hs, hopen, hgroups, hzone.read, hport]

/-! ## A host and a port that are put together -/

/-- The last colon of a text stands where it was put. -/
theorem eq_of_append_colon {cs cs' ds ds' : List Char} (h : cs ++ ':' :: ds = cs' ++ ':' :: ds')
    (hds : ':' ∉ ds) (hds' : ':' ∉ ds') : cs = cs' ∧ ds = ds' := by
  rcases List.append_eq_append_iff.1 h with ⟨more, hcs, htail⟩ | ⟨more, hcs, htail⟩
  · cases more with
    | nil => exact ⟨by simpa using hcs.symm, by simpa using htail⟩
    | cons c more =>
      have hmem : ':' ∈ ds := by simp [(List.cons.inj htail).2]
      exact absurd hmem hds
  · cases more with
    | nil => exact ⟨by simpa using hcs, by simpa using htail.symm⟩
    | cons c more =>
      have hmem : ':' ∈ ds' := by simp [(List.cons.inj htail).2]
      exact absurd hmem hds'

theorem SpellsNumber.notMem_colon {bound n : Nat} {ds : List Char} (h : SpellsNumber bound ds n) :
    ':' ∉ ds :=
  fun hmem => absurd (Decimal.radix.isSome_digit?_of_value? h.value ':' hmem) (by decide)

/-- A host and a port with a colon between them are read as the address that the host spells. -/
theorem ofText?_host {port : Nat} (hport : port < 65536) (host : String) (a : SocketAddress) :
    ofText? (host ++ ":" ++ Decimal.text port) = some a ↔ SpellsHost port host.toList a := by
  have htext : (host ++ ":" ++ Decimal.text port).toList =
      host.toList ++ ':' :: Decimal.digits port := by
    simp [Decimal.text]
  have hdigits : SpellsNumber 65536 (Decimal.digits port) port :=
    ⟨Decimal.radix.digits_ne_nil port, Nat.le_refl _, Decimal.radix.value?_digits port, hport⟩
  rw [ofText?_eq_some_iff, htext]
  constructor
  · rintro ⟨host', ds, port', htext', hds, hhost⟩
    obtain ⟨hsame, rfl⟩ :=
      eq_of_append_colon htext' hdigits.notMem_colon (SpellsNumber.notMem_colon hds)
    cases hdigits.value.symm.trans hds.value
    rw [hsame]
    exact hhost
  · intro h
    exact ⟨_, _, port, rfl, hdigits, h⟩

/-! ## IPv6 addresses without brackets -/

theorem mem_v4Chars {octets : List Nat} (h : Octets octets) {c : Char} (hc : c ∈ v4Chars octets) :
    Decimal.isDigit c = true ∨ c = '.' := by
  obtain ⟨a, b, c, d, rfl, -⟩ := h.exists_eq
  rw [← List.append_nil (v4Chars _), v4Chars_four] at hc
  simp only [List.append_nil, List.mem_append, List.mem_cons] at hc
  have hdigit {o : Nat} {c : Char} : c ∈ Decimal.digits o → Decimal.isDigit c = true :=
    Decimal.isDigit_of_mem_digits
  tauto

theorem SpellsRow.mem {first : Bool} {row : List Char} {gs : List Nat} {dotted : Bool}
    (h : SpellsRow first row gs dotted) {c : Char} (hc : c ∈ row) :
    (Hex.digit? c).isSome = true ∨ c = '.' ∨ c = ':' := by
  have hlead {first : Bool} (hc : c ∈ lead first) : c = ':' := by
    cases first with
    | true => cases hc
    | false => exact List.mem_singleton.1 hc
  induction h with
  | nil => cases hc
  | dotted first hoctets =>
    rcases List.mem_append.1 hc with hc | hc
    · exact .inr (.inr (hlead hc))
    · rcases mem_v4Chars hoctets hc with hdigit | hpoint
      · exact .inl (isSome_digit?_of_isDigit hdigit)
      · exact .inr (.inl hpoint)
  | cons first hgroup hrow ih =>
    rcases List.mem_append.1 hc with hc | hc
    · rcases List.mem_append.1 hc with hc | hc
      · exact .inr (.inr (hlead hc))
      · exact .inl (Hex.radix.isSome_digit?_of_value? hgroup.value c hc)
    · exact ih hc

/-- A row of several groups has a colon, unless it is an IPv4 address. -/
theorem SpellsRow.mem_colon {row : List Char} {gs : List Nat} {dotted : Bool}
    (h : SpellsRow true row gs dotted) (hmany : 2 < gs.length) : ':' ∈ row := by
  cases h with
  | nil => cases hmany
  | dotted first hoctets =>
    rw [hoctets.length_groupsOfV4] at hmany
    exact absurd hmany (Nat.lt_irrefl 2)
  | cons first hgroup hrow =>
    cases hrow with
    | nil => simp at hmany
    | dotted => simp
    | cons => simp

theorem SpellsV6.mem_colon {cs : List Char} {groups : List Nat} (h : SpellsV6 cs groups) :
    ':' ∈ cs := by
  cases h with
  | full hrow hall => exact hrow.mem_colon (by omega)
  | short => simp

theorem SpellsV6.notMem_bracket {cs : List Char} {groups : List Nat} (h : SpellsV6 cs groups) :
    '[' ∉ cs := by
  have hrow {row : List Char} {gs : List Nat} {dotted : Bool}
      (h : SpellsRow true row gs dotted) : '[' ∉ row :=
    fun hmem => absurd (h.mem hmem) (by decide)
  cases h with
  | full h hall => exact hrow h
  | short h h' hfew => simp [hrow h, hrow h']

/-- An IPv6 address that stands without brackets is no host. -/
theorem SpellsV6.not_spellsHost {cs : List Char} {groups : List Nat} (h : SpellsV6 cs groups)
    (port : Nat) (a : SocketAddress) : ¬ SpellsHost port cs a := by
  intro hhost
  cases hhost with
  | v4 hoctets => exact absurd (mem_v4Chars hoctets h.mem_colon) (by decide)
  | v6 => exact h.notMem_bracket List.mem_cons_self

end PayOnce.Net.SocketAddress
