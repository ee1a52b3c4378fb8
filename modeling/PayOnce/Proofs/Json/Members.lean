import PayOnce.Proofs.Json.Grammar
/-!
Records read from any spelling of an object. Each member adds its value under a name that is new, or
nothing if nobody asks for it; a record is read if all of its members can be taken in turn. In the
end the values found are those of the members of each name, of which there is at most one.
-/

namespace PayOnce.Json

open Value

variable {V : Type}

/-! ## Readers of values -/

/-- A reader takes off a text of the grammar what the text denotes, and nothing else, where the text
    ends or goes on behind it. -/
def Understands (read : Reader V) (denotes : List Char → V → Prop) : Prop :=
  ∀ {v : List Char}, Spelt v → ∀ (g : Gap) {cs : Glyphs}, Delimited (skipGaps cs) → ∀ x rest,
    read (g.glyphs ++ (v.map some ++ cs)) = .ok (x, rest) ↔ denotes v x ∧ rest = cs

/-- What follows a step that takes off what is denoted goes on with that. -/
theorem read_bind_eq_ok_iff {α β : Type} {denoted : α → Prop} {cs : Glyphs}
    {r : Except Fault (α × Glyphs)}
    (hread : ∀ a rest, r = .ok (a, rest) ↔ denoted a ∧ rest = cs)
    (next : α × Glyphs → Except Fault β) (b : β) :
    (r >>= next) = .ok b ↔ ∃ a, denoted a ∧ next (a, cs) = .ok b := by
  constructor
  · intro h
    cases r with
    | error fault => cases h
    | ok r =>
      obtain ⟨a, rest⟩ := r
      obtain ⟨ha, rfl⟩ := (hread a rest).1 rfl
      exact ⟨a, ha, h⟩
  · rintro ⟨a, ha, hnext⟩
    rw [(hread a cs).2 ⟨ha, rfl⟩]
    exact hnext

/-- A field of a record, with what the texts of its values denote. -/
structure Known (V : Type) extends Member V where
  denotes : List Char → V → Prop
  understands : Understands read denotes

/-- A text denotes one value at most. -/
theorem Known.unique (field : Known V) {v : List Char} (hv : Spelt v) {x y : V}
    (hx : field.denotes v x) (hy : field.denotes v y) : x = y := by
  have hend : Delimited (skipGaps []) := trivial
  have hreadx := (field.understands hv .none hend x []).2 ⟨hx, rfl⟩
  have hready := (field.understands hv .none hend y []).2 ⟨hy, rfl⟩
  rw [hreadx] at hready
  cases hready
  rfl

/-- A string of JSON and the text that it spells. -/
def Says (v : List Char) (s : String) : Prop :=
  ∃ ps, v = quoted ps ∧ spelled? ps = some s

/-- A string is read as what its pieces spell, whatever follows. -/
theorem readText_quoted (g : Gap) (ps : List Piece) (cs : Glyphs) :
    readText (g.glyphs ++ ((quoted ps).map some ++ cs))
      = orMalformed ((spelled? ps).map fun s => (s, cs)) := by
  rw [← readString_pieces, readText, Gap.skipGaps_append, skipGaps_quoted]
  simp only [quoted, List.cons_append, List.map_cons]

theorem readText_quoted_eq_ok_iff (g : Gap) (ps : List Piece) (cs : Glyphs) (s : String)
    (rest : Glyphs) :
    readText (g.glyphs ++ ((quoted ps).map some ++ cs)) = .ok (s, rest)
      ↔ spelled? ps = some s ∧ rest = cs := by
  rw [readText_quoted]
  cases spelled? ps <;> simp [orMalformed, eq_comm]

theorem understands_readText : Understands readText Says := by
  intro v hv g cs hcs s rest
  constructor
  · intro hread
    obtain ⟨ps, rfl⟩ | ⟨c, ds, rfl, hgap, hquote⟩ := hv.eq_quoted_or
    · obtain ⟨hs, hrest⟩ := (readText_quoted_eq_ok_iff ..).1 hread
      exact ⟨⟨ps, rfl, hs⟩, hrest⟩
    · rw [readText, Gap.skipGaps_append, hv.skipGaps, List.map_cons, List.cons_append] at hread
      split at hread
      · next heq => exact absurd (by simpa using congrArg List.head? heq) hquote
      · cases hread
  · rintro ⟨⟨ps, rfl, hs⟩, hrest⟩
    exact (readText_quoted_eq_ok_iff ..).2 ⟨hs, hrest⟩

theorem readSpelled_eq_ok_iff {α : Type} (spelled : String → Option α) (complaint : String → String)
    (cs : Glyphs) (a : α) (rest : Glyphs) :
    readSpelled spelled complaint cs = .ok (a, rest)
      ↔ ∃ s, readText cs = .ok (s, rest) ∧ spelled s = some a := by
  unfold readSpelled
  cases readText cs with
  | error fault => simp [bind, Except.bind]
  | ok r =>
    obtain ⟨s, rest'⟩ := r
    simp only [bind, Except.bind]
    cases hs : spelled s <;> simp [hs, and_comm]

theorem understands_readSpelled {α : Type} (spelled : String → Option α)
    (complaint : String → String) :
    Understands (readSpelled spelled complaint) fun v a => ∃ s, Says v s ∧ spelled s = some a := by
  intro v hv g cs hcs a rest
  simp only [readSpelled_eq_ok_iff, understands_readText hv g hcs]
  constructor
  · rintro ⟨s, ⟨hspells, hrest⟩, hs⟩
    exact ⟨⟨s, hspells, hs⟩, hrest⟩
  · rintro ⟨⟨s, hspells, hs⟩, hrest⟩
    exact ⟨s, ⟨hspells, hrest⟩, hs⟩

theorem orMalformed_eq_ok_iff {α : Type} {x : Option α} {a : α} :
    orMalformed x = .ok a ↔ x = some a := by
  cases x <;> simp [orMalformed]

theorem readText_gap (g : Gap) (cs : Glyphs) : readText (g.glyphs ++ cs) = readText cs := by
  unfold readText misfitAt
  rw [g.skipGaps_append]

/-! ## Members in turn -/

variable (fields : List (Known V))

/-- The field of a name. -/
def Known.find? (name : String) : Option (Known V) :=
  fields.find? (·.name == name)

theorem Known.of_find? {fields : List (Known V)} {name : String} {field : Known V}
    (h : find? fields name = some field) : field ∈ fields ∧ field.name = name := by
  have hname := List.find?_some h
  exact ⟨List.mem_of_find?_eq_some h, beq_iff_eq.1 hname⟩

theorem find?_toMember (name : String) :
    (fields.map Known.toMember).find? (·.name == name)
      = (Known.find? fields name).map Known.toMember := by
  rw [Known.find?, List.find?_map]
  rfl

variable {fields}

/-- What a member adds to what was found before it: nothing if nobody asks for it, and otherwise its
    value under a name that is new. -/
def Adds (fields : List (Known V)) (found : Found V) (m : MemberText) (found' : Found V) : Prop :=
  match spelled? m.name with
  | none => False
  | some name => match Known.find? fields name with
    | none => found' = found
    | some field => found.get? name = none ∧
      ∃ x, field.denotes m.item.value x ∧ found' = (name, x) :: found

/-- What members add in turn. -/
def AddsAll (fields : List (Known V)) : Found V → List MemberText → Found V → Prop
  | found, [], found' => found' = found
  | found, m :: ms, found'' =>
    ∃ found', Adds fields found m found' ∧ AddsAll fields found' ms found''

theorem readAt_eq_ok_iff (place : Place) (read : Reader V) (cs : Glyphs) (r : V × Glyphs) :
    readAt place read cs = .ok r ↔ read cs = .ok r := by
  unfold readAt
  cases read cs <;> simp

theorem readMember_eq_bind {fields : List (Member V)} {found : Found V} {name : String}
    {field : Member V} {cs rest rest' : Glyphs}
    (hname : readString .plain [] cs = some (name, rest))
    (hfield : fields.find? (·.name == name) = some field) (hnew : found.get? name = none)
    (hcolon : readColon rest = some rest') :
    readMember fields found cs
      = readAt (.member name) field.read rest' >>= fun r => .ok ((name, r.1) :: found, r.2) := by
  simp only [readMember, hname, hfield, hnew, hcolon, Option.isSome_none, Bool.false_eq_true,
    if_false]
  cases readAt (.member name) field.read rest' <;> rfl

/-- A member is read as what it adds. -/
theorem readMember_eq_ok_iff (fields : List (Known V)) {m : MemberText}
    (hm : Spelt m.item.value) (found found' : Found V) {cs : Glyphs}
    (hcs : Delimited (skipGaps cs)) (rest : Glyphs) :
    readMember (fields.map Known.toMember) found (m.fromName cs) = .ok (found', rest)
      ↔ Adds fields found m found' ∧ rest = m.item.after.glyphs ++ cs := by
  have hcolon : readColon (m.behind.glyphs ++ some ':' :: (m.item.chars.map some ++ cs))
      = some (m.item.before.glyphs ++ (m.item.value.map some ++ (m.item.after.glyphs ++ cs))) := by
    have hgap : isGap (some ':') = false := by decide
    simp only [readColon, Gap.skipGaps_append, skipGaps_cons hgap, m.item.glyphs]
  have hafter : Delimited (skipGaps (m.item.after.glyphs ++ cs)) := by
    rwa [Gap.skipGaps_append]
  have hread := readString_pieces m.name
    (m.behind.glyphs ++ some ':' :: (m.item.chars.map some ++ cs))
  rw [Adds, MemberText.fromName]
  cases hname : spelled? m.name with
  | none =>
    rw [hname, Option.map_none] at hread
    simp only [readMember, hread, reduceCtorEq, false_and]
  | some name =>
    have hfind := find?_toMember fields name
    rw [hname, Option.map_some] at hread
    cases hfield : Known.find? fields name with
    | none =>
      simp only [readMember, hread, hfind, hfield, Option.map_none, hcolon, Option.bind_some,
        skipValue_spelt hm _ hafter, Except.ok.injEq, Prod.mk.injEq, eq_comm]
    | some field =>
      rw [hfield, Option.map_some] at hfind
      cases hnew : found.get? name with
      | some x =>
        simp only [readMember, hread, hfind, hfield, hnew, Option.isSome_some, if_true,
          reduceCtorEq, false_and]
      | none =>
        have hvalue (x : V) (rest : Glyphs) :=
          (readAt_eq_ok_iff (.member name) field.read _ (x, rest)).trans
            (field.understands hm m.item.before hafter x rest)
        rw [readMember_eq_bind hread hfind hnew hcolon, read_bind_eq_ok_iff hvalue]
        simp only [hfield, hnew, Except.ok.injEq, Prod.mk.injEq, true_and, eq_comm, ← and_assoc,
          exists_and_right]

theorem readMembers_gap (fields : List (Member V)) (fuel : Nat) (first : Bool) (found : Found V)
    (g : Gap) (cs : Glyphs) :
    readMembers fields fuel first found (g.glyphs ++ cs)
      = readMembers fields fuel first found cs := by
  cases fuel with
  | zero => rfl
  | succ fuel =>
    unfold readMembers
    rw [g.skipGaps_append]

/-- What a reader does from the name of a member on. -/
def readFromName (fields : List (Member V)) (fuel : Nat) (found : Found V) (cs : Glyphs) :
    Except Fault (Found V × Glyphs) := do
  let (found, rest) ← readMember fields found cs
  readMembers fields fuel false found rest

theorem readMembers_first (fields : List (Member V)) (fuel : Nat) (found : Found V) (m : MemberText)
    (cs : Glyphs) :
    readMembers fields (fuel + 1) true found (m.chars.map some ++ cs)
      = readFromName fields fuel found (m.fromName cs) := by
  have hquote : isGap (some '"') = false := by decide
  rw [m.glyphs_fromName, readMembers_gap, readFromName]
  simp only [readMembers, skipGaps_cons hquote]
  cases readMember fields found (m.fromName cs) <;> rfl

theorem readMembers_next (fields : List (Member V)) (fuel : Nat) (found : Found V) (m : MemberText)
    (cs : Glyphs) :
    readMembers fields (fuel + 1) false found (some ',' :: (m.chars.map some ++ cs))
      = readFromName fields fuel found (m.fromName cs) := by
  have hquote : isGap (some '"') = false := by decide
  have hcomma : isGap (some ',') = false := by decide
  rw [m.glyphs_fromName, readFromName]
  simp only [readMembers, skipGaps_cons hcomma, Gap.skipGaps_append, skipGaps_cons hquote]
  cases readMember fields found (m.fromName cs) <;> rfl

theorem readMembers_close (fields : List (Member V)) (fuel : Nat) (first : Bool) (found : Found V)
    (cs : Glyphs) :
    readMembers fields (fuel + 1) first found (some '}' :: cs) = .ok (found, cs) := by
  have hclose : isGap (some '}') = false := by decide
  cases first <;> simp only [readMembers, skipGaps_cons hclose]

theorem readFromName_eq_ok_iff {m : MemberText} (hm : Spelt m.item.value) (fuel : Nat)
    (found found'' : Found V) {cs : Glyphs} (hcs : Delimited (skipGaps cs)) (rest : Glyphs) :
    readFromName (fields.map Known.toMember) fuel found (m.fromName cs) = .ok (found'', rest)
      ↔ ∃ found', Adds fields found m found' ∧
        readMembers (fields.map Known.toMember) fuel false found' cs = .ok (found'', rest) := by
  have hmember (found' : Found V) (rest' : Glyphs) :=
    readMember_eq_ok_iff fields hm found found' hcs rest'
  simp only [readFromName, read_bind_eq_ok_iff hmember, readMembers_gap]

/-- Members are read as what they add in turn. -/
theorem readMembers_eq_ok_iff (fields : List (Known V)) {ms : List MemberText}
    (hms : ∀ m ∈ ms, Spelt m.item.value) (fuel : Nat) (hfuel : ms.length < fuel)
    (found found' : Found V) (cs rest : Glyphs) :
    readMembers (fields.map Known.toMember) fuel false found
        ((furtherParts '}' MemberText.chars ms).map some ++ cs) = .ok (found', rest)
      ↔ AddsAll fields found ms found' ∧ rest = cs := by
  -- By induction on the members: each one adds to what was found before it.
  induction ms generalizing fuel found with
  | nil =>
    obtain ⟨fuel, rfl⟩ : ∃ n, fuel = n + 1 := ⟨fuel - 1, by simp at hfuel; omega⟩
    rw [furtherParts, List.map_singleton, List.singleton_append, readMembers_close]
    simp [AddsAll, eq_comm]
  | cons m ms ih =>
    obtain ⟨fuel, rfl⟩ : ∃ n, fuel = n + 1 := ⟨fuel - 1, by simp at hfuel; omega⟩
    have hrest := ih (fun m' hm' => hms m' (List.mem_cons_of_mem _ hm')) fuel (by simpa using hfuel)
    have hdelimited := delimited_furtherParts MemberText.chars (.inr rfl) ms cs
    rw [furtherParts, List.cons_append, List.map_cons, List.map_append, List.cons_append,
      List.append_assoc, readMembers_next,
      readFromName_eq_ok_iff (hms m List.mem_cons_self) fuel found found' hdelimited]
    simp only [hrest, AddsAll, ← and_assoc, exists_and_right]

/-- An object is read as a record if its members can be taken in turn. -/
theorem readRecord_eq_ok_iff (fields : List (Known V)) (shape : String) (lead inner : Gap)
    {ms : List MemberText} (hms : ∀ m ∈ ms, Spelt m.item.value) (found : Found V)
    (cs rest : Glyphs) :
    readRecord shape (fields.map Known.toMember)
        (lead.glyphs ++ ((objectText inner ms).map some ++ cs)) = .ok (found, rest)
      ↔ AddsAll fields [] ms found ∧ rest = cs := by
  have hopen : isGap (some '{') = false := by decide
  rw [objectText, List.cons_append, List.map_cons, List.map_append, List.cons_append,
    List.append_assoc, readRecord, Gap.skipGaps_append, skipGaps_cons hopen]
  change readMembers _ _ true [] (inner.glyphs ++ _) = _ ↔ _
  rw [readMembers_gap]
  cases ms with
  | nil =>
    rw [allParts, List.map_singleton, List.singleton_append, readMembers_close]
    simp [AddsAll, eq_comm]
  | cons m ms =>
    have hlength := length_lt_furtherParts '}' MemberText.chars ms
    have hrest := readMembers_eq_ok_iff fields
      fun m' hm' => hms m' (List.mem_cons_of_mem _ hm')
    have hdelimited := delimited_furtherParts MemberText.chars (.inr rfl) ms cs
    rw [allParts, List.map_append, List.append_assoc, readMembers_first,
      readFromName_eq_ok_iff (hms m List.mem_cons_self) _ _ _ hdelimited]
    have hfuel : ms.length < (inner.chars.map some ++ (m.chars.map some
        ++ ((furtherParts '}' MemberText.chars ms).map some ++ cs))).length := by
      simp only [List.length_append, List.length_map]
      omega
    simp only [hrest _ hfuel, AddsAll, ← and_assoc, exists_and_right]

theorem isEmpty_skipGaps_iff (cs : List Char) :
    (skipGaps (cs.map some)).isEmpty = true ↔ ∀ c ∈ cs, isGap (some c) = true := by
  rw [List.isEmpty_iff, skipGaps, List.dropWhile_eq_nil_iff]
  simp

/-- A text with an object at its start is read as a record if the members can be taken in turn and
    only blanks follow. -/
theorem readAll_readRecord_eq_ok_iff (shape : String) (lead inner : Gap) {ms : List MemberText}
    (hms : ∀ m ∈ ms, Spelt m.item.value) (tail : List Char) (found : Found V) :
    readAll (readRecord shape (fields.map Known.toMember))
        (lead.glyphs ++ ((objectText inner ms).map some ++ tail.map some)) = .ok found
      ↔ AddsAll fields [] ms found ∧ ∀ c ∈ tail, isGap (some c) = true := by
  have hrecord (found : Found V) (rest : Glyphs) :=
    readRecord_eq_ok_iff fields shape lead inner hms found (tail.map some) rest
  rw [readAll, read_bind_eq_ok_iff hrecord, ← isEmpty_skipGaps_iff]
  by_cases hblank : (skipGaps (tail.map some)).isEmpty = true
  · simp only [hblank, if_true, Except.ok.injEq, exists_eq_right, and_true]
  · simp only [hblank, Bool.false_eq_true, if_false, reduceCtorEq, and_false, exists_false]

/-! ## What was found -/

/-- The members of a name. -/
def membersNamed (ms : List MemberText) (name : String) : List MemberText :=
  ms.filter fun m => spelled? m.name = some name

/-- Every member has a name, and for each field there is one member with the value that was found,
    or none and nothing was found. -/
structure Gathers (fields : List (Known V)) (ms : List MemberText) (found : Found V) : Prop where
  spelled : ∀ m ∈ ms, ∃ name, spelled? m.name = some name
  absent : ∀ {name field}, Known.find? fields name = some field → found.get? name = none →
    membersNamed ms name = []
  present : ∀ {name field x}, Known.find? fields name = some field → found.get? name = some x →
    ∃ m, membersNamed ms name = [m] ∧ field.denotes m.item.value x

/-- For a field with one member, the member's value was found. -/
theorem Gathers.get?_eq {ms : List MemberText} {found : Found V} (h : Gathers fields ms found)
    {name : String} {field : Known V} (hfield : Known.find? fields name = some field)
    {m : MemberText} (honly : membersNamed ms name = [m]) (hm : Spelt m.item.value) {x : V}
    (hx : field.denotes m.item.value x) : found.get? name = some x := by
  cases hfound : found.get? name with
  | none =>
    rw [h.absent hfield hfound] at honly
    cases honly
  | some y =>
    obtain ⟨m', honly', hy⟩ := h.present hfield hfound
    rw [honly] at honly'
    cases honly'
    rw [field.unique hm hx hy]

theorem get?_cons_self (name : String) (x : V) (found : Found V) :
    Found.get? ((name, x) :: found) name = some x := by
  rw [Found.get?, List.lookup_cons, beq_self_eq_true]

theorem get?_cons_of_ne {name name' : String} (h : name' ≠ name) (x : V) (found : Found V) :
    Found.get? ((name', x) :: found) name = found.get? name := by
  rw [Found.get?, List.lookup_cons, beq_eq_false_iff_ne.2 h.symm]
  rfl

theorem membersNamed_append_singleton (ms : List MemberText) (m : MemberText) (name : String) :
    membersNamed (ms ++ [m]) name
      = membersNamed ms name ++ if spelled? m.name = some name then [m] else [] := by
  rw [membersNamed, List.filter_append]
  congr 1
  simp [List.filter_singleton]

theorem gathers_nil : Gathers fields [] [] where
  spelled := by simp
  absent _ _ := rfl
  present _ h := by cases h

theorem membersNamed_append_of_ne {ms : List MemberText} {m : MemberText} {n name : String}
    (hname : spelled? m.name = some n) (hne : n ≠ name) :
    membersNamed (ms ++ [m]) name = membersNamed ms name := by
  rw [membersNamed_append_singleton, hname, if_neg (by simpa using hne), List.append_nil]

section Gathers

variable {ms : List MemberText} {m : MemberText} {found found' : Found V} {n : String}

theorem Gathers.spelled_append (h : Gathers fields ms found) (hname : spelled? m.name = some n) :
    ∀ m' ∈ ms ++ [m], ∃ name, spelled? m'.name = some name := by
  intro m' hm'
  rcases List.mem_append.1 hm' with hm' | hm'
  · exact h.spelled m' hm'
  · rw [List.mem_singleton.1 hm']
    exact ⟨n, hname⟩

/-- A member that nobody asks for changes nothing. -/
theorem Gathers.ignored (h : Gathers fields ms found) (hname : spelled? m.name = some n)
    (hfield : Known.find? fields n = none) : Gathers fields (ms ++ [m]) found := by
  have hne {name : String} {field : Known V} (h : Known.find? fields name = some field) :
      n ≠ name := by
    rintro rfl
    rw [hfield] at h
    cases h
  refine ⟨h.spelled_append hname, ?_, ?_⟩
  · intro name field hfield' hnone
    rw [membersNamed_append_of_ne hname (hne hfield'), h.absent hfield' hnone]
  · intro name field x hfield' hsome
    rw [membersNamed_append_of_ne hname (hne hfield')]
    exact h.present hfield' hsome

/-- A member whose value is taken is the only one of its name. -/
theorem Gathers.taken (h : Gathers fields ms found) (hname : spelled? m.name = some n)
    {field : Known V} (hfield : Known.find? fields n = some field) (hnew : found.get? n = none)
    {x : V} (hvalue : field.denotes m.item.value x) :
    Gathers fields (ms ++ [m]) ((n, x) :: found) := by
  refine ⟨h.spelled_append hname, ?_, ?_⟩
  · intro name field' hfield' hnone
    have hne : n ≠ name := by
      rintro rfl
      rw [get?_cons_self] at hnone
      cases hnone
    rw [get?_cons_of_ne hne] at hnone
    rw [membersNamed_append_of_ne hname hne, h.absent hfield' hnone]
  · intro name field' x' hfield' hsome
    by_cases heq : n = name
    · subst heq
      rw [get?_cons_self] at hsome
      rw [hfield] at hfield'
      cases hsome
      cases hfield'
      refine ⟨m, ?_, hvalue⟩
      rw [membersNamed_append_singleton, h.absent hfield hnew, if_pos hname, List.nil_append]
    · rw [get?_cons_of_ne heq] at hsome
      rw [membersNamed_append_of_ne hname heq]
      exact h.present hfield' hsome

theorem Adds.gathers (hadds : Adds fields found m found') (h : Gathers fields ms found) :
    Gathers fields (ms ++ [m]) found' := by
  unfold Adds at hadds
  cases hname : spelled? m.name with
  | none => simp [hname] at hadds
  | some n =>
    cases hfield : Known.find? fields n with
    | none =>
      simp only [hname, hfield] at hadds
      subst hadds
      exact h.ignored hname hfield
    | some field =>
      simp only [hname, hfield] at hadds
      obtain ⟨hnew, x, hvalue, rfl⟩ := hadds
      exact h.taken hname hfield hnew hvalue

theorem AddsAll.gathers {ms' : List MemberText}
    (hall : AddsAll fields found ms' found') (h : Gathers fields ms found) :
    Gathers fields (ms ++ ms') found' := by
  induction ms' generalizing ms found with
  | nil =>
    obtain rfl := hall
    rwa [List.append_nil]
  | cons m ms' ih =>
    obtain ⟨found'', hadds, hall⟩ := hall
    rw [List.append_cons]
    exact ih hall (hadds.gathers h)

end Gathers

/-- A member that is the only one of its name is so among the members behind another one. -/
theorem membersNamed_of_cons {m m' : MemberText} {ms : List MemberText} {name : String}
    (hm' : m' ∈ ms) (hname : spelled? m'.name = some name)
    (h : membersNamed (m :: ms) name = [m']) :
    spelled? m.name ≠ some name ∧ membersNamed ms name = [m'] := by
  have hmem : m' ∈ membersNamed ms name := List.mem_filter.2 ⟨hm', by simpa using hname⟩
  rw [membersNamed, List.filter_cons] at h
  split at h
  · rw [membersNamed, (List.cons.inj h).2] at hmem
    cases hmem
  · next hne => exact ⟨by simpa using hne, h⟩

/-- Members can be taken in turn if each of them has a name, and those that a field asks for have a
    name of their own that is new, and a value of the field. -/
theorem exists_addsAll {ms : List MemberText} (found : Found V)
    (hms : ∀ m ∈ ms, ∃ name, spelled? m.name = some name ∧
      ∀ field, Known.find? fields name = some field →
        found.get? name = none ∧ membersNamed ms name = [m] ∧ ∃ x, field.denotes m.item.value x) :
    ∃ found', AddsAll fields found ms found' := by
  induction ms generalizing found with
  | nil => exact ⟨found, rfl⟩
  | cons m ms ih =>
    obtain ⟨n, hname, hvalue⟩ := hms m List.mem_cons_self
    -- The other members can be taken whatever this one has added, since their names are others.
    have hrest (found' : Found V)
        (hsame : ∀ name, n ≠ name → found.get? name = none → found'.get? name = none) :
        ∃ found'', AddsAll fields found' ms found'' := by
      refine ih found' ?_
      intro m' hm'
      obtain ⟨name, hname', hvalue'⟩ := hms m' (List.mem_cons_of_mem _ hm')
      refine ⟨name, hname', ?_⟩
      intro field hfield
      obtain ⟨hnew, honly, hx⟩ := hvalue' field hfield
      obtain ⟨hne, honly⟩ := membersNamed_of_cons hm' hname' honly
      exact ⟨hsame name (fun heq => hne (heq ▸ hname)) hnew, honly, hx⟩
    cases hfield : Known.find? fields n with
    | none =>
      obtain ⟨found'', hall⟩ := hrest found fun _ _ hnew => hnew
      exact ⟨found'', found, by simp [Adds, hname, hfield], hall⟩
    | some field =>
      obtain ⟨hnew, -, x, hx⟩ := hvalue field hfield
      obtain ⟨found'', hall⟩ := hrest ((n, x) :: found) fun name hne hnew => by
        rwa [get?_cons_of_ne hne]
      exact ⟨found'', (n, x) :: found, by simpa [Adds, hname, hfield, hnew] using hx, hall⟩

/-! ## What is found was read -/

/-- Whatever a reader reads has a property. -/
def Yields {α : Type} (read : Reader α) (P : α → Prop) : Prop :=
  ∀ ⦃cs : Glyphs⦄ ⦃a : α⦄ ⦃rest : Glyphs⦄, read cs = .ok (a, rest) → P a

section Yields

variable {fields : List (Member V)} {P : V → Prop} {found found' : Found V} {cs rest : Glyphs}

theorem Yields.readAt {read : Reader V} (h : Yields read P) (place : Place) :
    Yields (readAt place read) P :=
  fun _ _ _ hread => h ((readAt_eq_ok_iff ..).1 hread)

theorem readMember_yields (hfields : ∀ field ∈ fields, Yields field.read P)
    (hread : readMember fields found cs = .ok (found', rest)) (hfound : ∀ x ∈ found, P x.2) :
    ∀ x ∈ found', P x.2 := by
  unfold readMember at hread
  split at hread
  · cases hread
  split at hread
  · split at hread
    · cases hread
      exact hfound
    · cases hread
  next hfield =>
    split at hread
    · cases hread
    split at hread
    · cases hread
    split at hread
    · next hvalue =>
      cases hread
      have hx := (hfields _ (List.mem_of_find?_eq_some hfield)).readAt _ hvalue
      exact List.forall_mem_cons.2 ⟨hx, hfound⟩
    · cases hread

theorem readMembers_yields (hfields : ∀ field ∈ fields, Yields field.read P) {fuel : Nat}
    {first : Bool} (hread : readMembers fields fuel first found cs = .ok (found', rest))
    (hfound : ∀ x ∈ found, P x.2) : ∀ x ∈ found', P x.2 := by
  -- By induction on the fuel, of which each member takes one.
  induction fuel generalizing first found cs with
  | zero => cases hread
  | succ fuel ih =>
    have hnext {cs rest' : Glyphs} {found'' : Found V}
        (hmember : readMember fields found cs = .ok (found'', rest'))
        (h : readMembers fields fuel false found'' rest' = .ok (found', rest)) :
        ∀ x ∈ found', P x.2 :=
      ih h (readMember_yields hfields hmember hfound)
    simp only [readMembers] at hread
    split at hread
    · cases hread
      exact hfound
    · split at hread
      · next hmember => exact hnext hmember hread
      · cases hread
    · split at hread
      · split at hread
        · next hmember => exact hnext hmember hread
        · cases hread
      · cases hread
    · cases hread

theorem readItems_yields (hfields : ∀ field ∈ fields, Yields field.read P) {index : Nat}
    (hread : readItems fields index found cs = .ok (found', rest))
    (hfound : ∀ x ∈ found, P x.2) : ∀ x ∈ found', P x.2 := by
  -- By induction on the fields, each of which takes an item.
  induction fields generalizing index found cs with
  | nil =>
    unfold readItems at hread
    split at hread
    · cases hread
      exact hfound
    · cases hread
  | cons field fields ih =>
    obtain ⟨hfield, hfields⟩ := List.forall_mem_cons.1 hfields
    have hitem {cs rest' : Glyphs} {v : V}
        (hvalue : Json.readAt (.item index) field.read cs = .ok (v, rest'))
        (h : readItems fields (index + 1) ((field.name, v) :: found) rest' = .ok (found', rest)) :
        ∀ x ∈ found', P x.2 :=
      ih hfields h (List.forall_mem_cons.2 ⟨hfield.readAt _ hvalue, hfound⟩)
    simp only [readItems] at hread
    split at hread
    · cases hread
      exact hfound
    · split at hread
      · next hvalue => exact hitem hvalue hread
      · cases hread
    · split at hread
      · cases hread
      · split at hread
        · next hvalue => exact hitem hvalue hread
        · cases hread
    · cases hread

theorem Yields.of_readAll {α : Type} {read : Reader α} {P : α → Prop} (h : Yields read P) {a : α}
    (hread : readAll read cs = .ok a) : P a := by
  unfold readAll at hread
  cases hvalue : read cs with
  | error fault =>
    rw [hvalue] at hread
    cases hread
  | ok r =>
    simp only [hvalue, bind, Except.bind] at hread
    split at hread
    · cases hread
      exact h hvalue
    · cases hread

/-- Every value that is found in a record has the property that whatever its fields read has. -/
theorem readRecord_yields (hfields : ∀ field ∈ fields, Yields field.read P) (shape : String) :
    Yields (readRecord shape fields) fun found => ∀ x ∈ found, P x.2 := by
  intro cs found rest hread
  unfold readRecord at hread
  split at hread
  · exact readMembers_yields hfields hread (by simp)
  · exact readItems_yields hfields hread (by simp)
  · cases hread

end Yields

end PayOnce.Json
